/-
This file models market orders on the user's Binance account: a buy opens a row,
a sell closes the oldest OPEN one, and "Sell now" sells the quantity of all the
rows of a symbol, closes the oldest row and cancels the others.

The client order id is left out: it is drawn at random and only sent along.
-/

import GdslExchange.Spot.PersonalWallet

namespace GdslExchange.Spot

open Async (Stored)
open Async.Program
open Jupiter (Side Trade lotQuantity)
open Numeric

/-- The settings of the smart router. -/
structure RouterSettings where
  smartRouterMinUsdt : ℚ

/-- The `input` of `executeBinanceSpotTrade`. -/
structure SpotInput where
  binanceSymbol : String
  side : Side
  amount : ℚ

/-- `binanceSymbol.replace(/USDT$/i, '')`, of a symbol in upper case. -/
def baseAsset (binanceSymbol : String) : String :=
  let letters := binanceSymbol.toList
  if "USDT".toList <:+ letters then String.ofList (letters.take (letters.length - 4))
  else binanceSymbol

def placeMarketOrder (settings : RouterSettings) (input : SpotInput) : Call RemoteOrder :=
  let symbol := input.binanceSymbol.toUpper
  match input.side with
  | .buy => do
    throwIf (input.amount < settings.smartRouterMinUsdt)
      ("Minimum Binance buy is " ++ text settings.smartRouterMinUsdt ++ " USDT.")
    await (.placeOrder ⟨symbol, .buy, none, some (toFixed 2 input.amount)⟩)
  | .sell => do
    let rules ← await (.getParsedSymbolRules symbol)
    let quantity ← ofExcept (Orders.adjustQuantityToLotSize input.amount rules)
    await (.placeOrder ⟨symbol, .sell, some quantity, none⟩)

/-- The dollars of an order, as it is booked. -/
def orderDollars (input : SpotInput) (remote : RemoteOrder) : ℚ :=
  let quoteQty := remote.cummulativeQuoteQty.getD 0
  match input.side with
  | .buy => if quoteQty > 0 then quoteQty else input.amount
  | .sell => quoteQty

/-- `entryPrice`, from the fill or else from the book. -/
def orderPrice (input : SpotInput) (remote : RemoteOrder) : Call ℚ :=
  let executedQty := remote.executedQty.getD 0
  let filled := if executedQty > 1 / 10 ^ 18 then orderDollars input remote / executedQty else 0
  if filled ≤ 0 then do
    let mid ← await (.fetchBookTicker input.binanceSymbol.toUpper)
    pure (mid.getD 0)
  else pure filled

/-- Everything up to the trade row. -/
def fillBinanceSpot (settings : RouterSettings) (input : SpotInput) : Call Fill := do
  let connection? ← await .getUserBinanceConnection
  let _ ← orThrow connection? "Binance API not connected — add keys on the Exchange page."
  await .ensureStrategyId
  let remote ← placeMarketOrder settings input
  let price ← orderPrice input remote
  pure ⟨remote.executedQty.getD 0, price, orderDollars input remote, remote.orderId⟩

/-- A row for an order, with its dollars as they are. -/
def spotRow (pair : String) (fill : Fill) (status : Jupiter.TradeStatus) : Trade where
  pair := pair
  entryPrice := fill.price
  exitPrice := none
  pnl := none
  allocationUsd := if fill.dollars > 0 then some fill.dollars else none
  takeProfitPct := none
  status := status

def recordSpotSell (pair : String) (fill : Fill) : Call RecordedTrade := do
  let openPos? ← await (.findOpenTrade pair)
  match openPos? with
  | some openPos => do
    let updated ← await (.updateTrade openPos.id (closePatch openPos.row fill.price))
    pure ⟨updated.id, pair, "CLOSED", openPos.row.alloc, updated.row.entryPrice, some fill.price,
      (closePatch openPos.row fill.price).pnl, .closed⟩
  | none => do
    let created ← await (.createTrade (spotRow pair fill .closed))
    pure ⟨created.id, pair, "SELL", fill.dollars, fill.price, none, none, .closed⟩

def recordSpotTrade (side : Side) (pair : String) (fill : Fill) : Call RecordedTrade :=
  match side with
  | .buy => do
    let created ← await (.createTrade (spotRow pair fill .open))
    pure ⟨created.id, pair, "BUY", fill.dollars, fill.price, none, none, .open⟩
  | .sell => recordSpotSell pair fill

def executeBinanceSpotTrade (settings : RouterSettings) (input : SpotInput) :
    Call RecordedTrade := do
  let fill ← fillBinanceSpot settings input
  recordSpotTrade input.side (baseAsset input.binanceSymbol.toUpper ++ "/USDT") fill

/-- What "Sell now" is about to do. -/
structure OpenPositionSell where
  input : SpotInput
  siblings : List (Stored Trade)

def planOpenPositionSell (symbol : String) : Call OpenPositionSell := do
  let sym := symbol.toUpper
  await .ensureStrategyId
  let openTrades ← await (.findOpenTradesOf (sym ++ "/USDT"))
  let _ ← orThrow openTrades.head?
    ("No open " ++ sym ++ " position in the Binance Spot trade book")
  let lotQty := lotQuantity openTrades
  throwIf (lotQty ≤ 0) ("No " ++ sym ++ " quantity recorded for open Binance trades")
  let quote ← await (.quoteBinanceSpotForUser (sym ++ "USDT") .sell lotQty)
  throwIf (!quote.available) (quote.reason.getD ("Cannot sell " ++ sym ++ " on Binance"))
  let sellQty := match quote.baseFree with
    | some baseFree => if baseFree > 0 then min lotQty (baseFree * (999 / 1000)) else lotQty
    | none => lotQty
  pure ⟨⟨sym ++ "USDT", .sell, sellQty⟩, openTrades.tail⟩

def sellBinanceOpenPosition (settings : RouterSettings) (symbol : String) :
    Call RecordedTrade := do
  let plan ← planOpenPositionSell symbol
  let trade ← executeBinanceSpotTrade settings plan.input
  cancelSiblings plan.siblings
  pure trade

end GdslExchange.Spot
