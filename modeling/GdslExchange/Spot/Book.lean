/-
This file models what the two spot books of a user talk to: his trade rows under
one strategy, the personal BSC wallet with the Pancake router, and his Binance
account. The chain and the exchange answer whatever they like.

A balance is read several times in one swap, so a reading says which it is.
-/

import GdslExchange.Jupiter.Book
import GdslExchange.Orders.LotSize

namespace GdslExchange.Spot

open Async (Delivery Stored)
open Jupiter (Side Trade TradePatch TradeStatus rows openRowsOf)
open Numeric

/-- `BscTokenSpec`. -/
structure BscToken where
  symbol : String
  address : Option String
  decimals : ℕ
deriving DecidableEq

/-- When a token balance is read: to size the swap, and right before and after it. -/
inductive Reading where
  | toSell
  | held
  | before
  | after
deriving DecidableEq

/-- The answer of the exchange to a market order. -/
structure RemoteOrder where
  orderId : String
  executedQty : Option ℚ
  cummulativeQuoteQty : Option ℚ

/-- A market order: a base quantity, or for a buy an amount of quote. -/
structure MarketOrder where
  symbol : String
  side : Side
  quantity : Option Fixed
  quoteOrderQty : Option Fixed
deriving DecidableEq

/-- The fields of a quote that a sell reads. -/
structure VenueQuote where
  available : Bool
  reason : Option String
  baseFree : Option ℚ

inductive Op where
  | ensureStrategyId
  | findOpenTradesOf (pair : String)
  | findOpenTrade (pair : String)
  | findOpenTradeWithId (id : ℕ) (pair : String)
  | updateTrade (id : ℕ) (patch : TradePatch)
  | createTrade (row : Trade)
  | loadSigner
  | readBnbBalances
  | ensureWbnbForSell (minWbnbNeeded : ℕ)
  | balanceOf (contract : String) (reading : Reading)
  | allowance (contract : String)
  | approve (contract : String)
  | getAmountsOut (amountIn : ℕ) (path : List String)
  | swapExactTokensForTokens (amountIn minOut : ℕ) (path : List String)
  | waitForReceipt (hash : String)
  | getUserBinanceConnection
  | getParsedSymbolRules (symbol : String)
  | placeOrder (order : MarketOrder)
  | fetchBookTicker (symbol : String)
  | quoteBinanceSpotForUser (symbol : String) (side : Side) (amount : ℚ)
deriving DecidableEq

@[reducible] def Result : Op → Type
  | .ensureStrategyId => Unit
  | .findOpenTradesOf _ => List (Stored Trade)
  | .findOpenTrade _ => Option (Stored Trade)
  | .findOpenTradeWithId _ _ => Option (Stored Trade)
  | .updateTrade _ _ => Stored Trade
  | .createTrade _ => Stored Trade
  | .loadSigner => Unit
  | .readBnbBalances => ℕ
  | .ensureWbnbForSell _ => Unit
  | .balanceOf _ _ => ℕ
  | .allowance _ => ℕ
  | .approve _ => Unit
  | .getAmountsOut _ _ => List ℕ
  | .swapExactTokensForTokens _ _ _ => String
  | .waitForReceipt _ => Unit
  | .getUserBinanceConnection => Option Unit
  | .getParsedSymbolRules _ => Orders.SymbolRules
  | .placeOrder _ => RemoteOrder
  | .fetchBookTicker _ => Option ℚ
  | .quoteBinanceSpotForUser _ _ _ => VenueQuote

/-- The book can fail, and everything else answers or fails. -/
@[reducible] def Fate : Op → Type
  | .ensureStrategyId => Delivery
  | .findOpenTradesOf _ => Delivery
  | .findOpenTrade _ => Delivery
  | .findOpenTradeWithId _ _ => Delivery
  | .updateTrade _ _ => Delivery
  | .createTrade _ => Delivery
  | op => Except String (Result op)

def perform : (op : Op) → Fate op → List Trade → List Trade × Except String (Result op)
  | .ensureStrategyId, delivery, trades => delivery.read trades ()
  | .findOpenTradesOf pair, delivery, trades => delivery.read trades (openRowsOf pair trades)
  | .findOpenTrade pair, delivery, trades => delivery.read trades (openRowsOf pair trades).head?
  | .findOpenTradeWithId id pair, delivery, trades =>
    delivery.read trades ((openRowsOf pair trades).find? fun stored => stored.id = id)
  | .updateTrade id patch, delivery, trades =>
    match trades[id]? with
    | none => (trades, .error "Record to update not found.")
    | some row => delivery.write trades (trades.set id (patch.apply row)) ⟨id, patch.apply row⟩
  | .createTrade row, delivery, trades =>
    delivery.write trades (trades ++ [row]) ⟨trades.length, row⟩
  | .loadSigner, answer, trades => (trades, answer)
  | .readBnbBalances, answer, trades => (trades, answer)
  | .ensureWbnbForSell _, answer, trades => (trades, answer)
  | .balanceOf _ _, answer, trades => (trades, answer)
  | .allowance _, answer, trades => (trades, answer)
  | .approve _, answer, trades => (trades, answer)
  | .getAmountsOut _ _, answer, trades => (trades, answer)
  | .swapExactTokensForTokens _ _ _, answer, trades => (trades, answer)
  | .waitForReceipt _, answer, trades => (trades, answer)
  | .getUserBinanceConnection, answer, trades => (trades, answer)
  | .getParsedSymbolRules _, answer, trades => (trades, answer)
  | .placeOrder _, answer, trades => (trades, answer)
  | .fetchBookTicker _, answer, trades => (trades, answer)
  | .quoteBinanceSpotForUser _ _ _, answer, trades => (trades, answer)

/-- The outside world of the spot services. -/
abbrev floor : Async.Service where
  State := List Trade
  Op := Op
  Result := Result
  Failure := String
  Fate := Fate
  perform := perform

/-- A call of a spot service. -/
abbrev Call (Value : Type) := Async.Program floor Value

def await (op : Op) : Call (Result op) := @Async.Program.perform floor op

/-- The `trade` of a result. -/
structure RecordedTrade where
  id : ℕ
  pair : String
  side : String
  allocationUsd : ℚ
  entryPrice : ℚ
  exitPrice : Option ℚ
  pnl : Option ℚ
  status : TradeStatus

/-- What a swap or an order brought: the base quantity that changed hands, the price that is
booked, and the amount of dollars. -/
structure Fill where
  quantity : ℚ
  price : ℚ
  dollars : ℚ
  reference : String
deriving DecidableEq

def cancelPatch : TradePatch := { status := some .cancelled }

/-- The other rows of an aggregated sell are cancelled. -/
def cancelSiblings (siblings : List (Stored Trade)) : Call Unit :=
  Async.Program.forEach (fun sibling => do
    let _ ← await (.updateTrade sibling.id cancelPatch)
    pure ()) siblings

end GdslExchange.Spot
