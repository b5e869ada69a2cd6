/-
This file models what the CEX super machine and the manual desk talk to: the
config row of one user, the trailing peaks that were written without waiting,
the skim cooldown, and the exchange, which answers whatever it likes.

Every writer of the row is one kind of write. A peak is posted and may land at
any later point, or never.
-/

import GdslExchange.Cex.Lot

namespace GdslExchange.Cex

open Async (Delivery)
open Exits (ExitSettings)

/-! ### Writes -/

/-- The `data` of `setCexPositionExitOverrides`: the columns it sets. -/
structure Overrides where
  takeProfitPct : Option (Option ℚ) := none
  stopLossPct : Option (Option ℚ) := none
  trailingStop : Option (Option Bool) := none
deriving DecidableEq

/-- A lot as a BUY writes it. -/
structure NewLot where
  symbol : String
  pair : String
  entryPrice : ℚ
  baseQty : ℚ
  quoteSpent : ℚ
  openedAt : ℕ

/-- The writes to the row, by their writers. -/
inductive Write where
  | connect (connId : String)
  | tick (now : ℕ)
  | clearOpenLot
  | raisePeak (peak : ℚ)
  | setOverrides (overrides : Overrides)
  | skim (baseQty quoteSpent skimmedUsd : ℚ)
  | councilBuy (lot : NewLot)
  | manualOpen (lot : NewLot)
  | manualAdd (lot : NewLot)
  | manualClose
  | manualReduce (baseQty quoteSpent : ℚ)

/-- The six columns that a BUY sets and a manual close clears. -/
def ConfigRow.openLot (row : ConfigRow) (lot : NewLot) : ConfigRow :=
  { row with
    openSymbol := some lot.symbol
    openPair := some lot.pair
    openEntryPrice := some lot.entryPrice
    openBaseQty := some lot.baseQty
    openQuoteSpent := some lot.quoteSpent
    openedAt := some lot.openedAt }

def ConfigRow.closeLot (row : ConfigRow) : ConfigRow :=
  { row with
    openSymbol := none
    openPair := none
    openEntryPrice := none
    openBaseQty := none
    openQuoteSpent := none
    openedAt := none }

def ConfigRow.clearOpenLot (row : ConfigRow) : ConfigRow :=
  { row.closeLot with
    openTakeProfitPct := none
    openStopLossPct := none
    openTrailingStop := none
    openTrailingPeak := none
    openSkimmedUsd := none }

def Write.apply : Write → ConfigRow → ConfigRow
  | connect connId, row => { row with exchangeConnectionId := some connId }
  | tick now, row => { row with lastTickAt := some now }
  | clearOpenLot, row => row.clearOpenLot
  | raisePeak peak, row => { row with openTrailingPeak := some peak }
  | setOverrides overrides, row =>
    { row with
      openTakeProfitPct := overrides.takeProfitPct.getD row.openTakeProfitPct
      openStopLossPct := overrides.stopLossPct.getD row.openStopLossPct
      openTrailingStop := overrides.trailingStop.getD row.openTrailingStop }
  | skim baseQty quoteSpent skimmedUsd, row =>
    { row with
      openBaseQty := some baseQty
      openQuoteSpent := some quoteSpent
      openSkimmedUsd := some skimmedUsd }
  | councilBuy lot, row => { row.openLot lot with lastBuyAt := some lot.openedAt }
  | manualOpen lot, row => row.openLot lot
  | manualAdd lot, row => row.openLot lot
  | manualClose, row => row.closeLot
  | manualReduce baseQty quoteSpent, row =>
    { row with openBaseQty := some baseQty, openQuoteSpent := some quoteSpent }

/-- The row that the upsert of a manual BUY creates, with the defaults of the schema. -/
def createdRow (lot : NewLot) : ConfigRow where
  enabled := false
  exchangeConnectionId := none
  watchSymbol := lot.symbol
  maxTradeUsd := 25
  emergencyStop := false
  openSymbol := some lot.symbol
  openPair := some lot.pair
  openEntryPrice := some lot.entryPrice
  openBaseQty := some lot.baseQty
  openQuoteSpent := some lot.quoteSpent
  openedAt := some lot.openedAt
  openTakeProfitPct := none
  openStopLossPct := none
  openTrailingStop := none
  openTrailingPeak := none
  openSkimmedUsd := none
  lastBuyAt := none
  lastTickAt := none

/-- What a write leaves where the row may not exist: only the upsert creates it. -/
def Write.land : Write → Option ConfigRow → Option ConfigRow
  | manualOpen lot, none => some (createdRow lot)
  | _, none => none
  | write, some row => some (write.apply row)

theorem land_some {row : ConfigRow} {data : Write} : data.land (some row) = data.apply row := by
  cases data <;> rfl

/-! ### Operations -/

inductive Side where
  | buy
  | sell
deriving DecidableEq

/-- The fields of a `placeOrder` request; the type is always MARKET. -/
structure OrderRequest where
  exchangeConnectionId : String
  symbol : String
  side : Side
  quantity : ℚ
  quoteOrderQty : Option ℚ := none
  price : Option ℚ

/-- The fields of a placed order that its callers read. -/
structure PlacedOrder where
  id : String
  filledQuantity : Option ℚ
  quoteQuantity : Option ℚ
  avgFillPrice : Option ℚ

structure BookTicker where
  bid : Option ℚ
  ask : Option ℚ
  mid : Option ℚ
deriving DecidableEq

/-- The free balance of an asset. -/
structure AdapterBalance where
  asset : String
  free : ℚ

structure CouncilSettings where
  maxTradeUsd : ℚ
  watchSymbol : String
  hasOpenLong : Bool

/-- The fields of a council decision that the tick reads. -/
structure CouncilDecision where
  isBuy : Bool
  orderSizeUsd : ℚ
  consensus : ℚ

structure ManualTradeRequest where
  symbol : String
  side : Side
  quoteOrderQty : Option ℚ
  quantity : Option ℚ
  fraction : Option ℚ
  attachExits : Bool

/-- The fields of a preflight that the trade reads. -/
structure ManualPreflight where
  ok : Bool
  blockers : List String
  symbol : String
  side : Side
  quoteOrderQty : Option ℚ
  quantity : Option ℚ
  estPrice : Option ℚ
  estQuoteValue : Option ℚ

/-- The decrypted keys of a connection. -/
structure ApiKeys where
  key : String
  secret : String

/-- The row, the peaks that are under way to it, and `skimCooldownByUser`. -/
structure Machine where
  row : Option ConfigRow
  posted : List ℚ
  skimmedAt : Option ℕ

inductive Op where
  | findConfig
  | write (data : Write)
  | postPeak (peak : ℚ)
  | landPeak (position : ℕ)
  | takeSkim
  | findTradingConnection (connId : String)
  | findAnyConnection
  | loadConnection (connId : String)
  | computeAutomationReadiness (connId : String)
  | getBalances (keys : ApiKeys)
  | fetchBookTicker (symbol : String)
  | getCexExitSettings
  | cexCouncilEvaluate (settings : CouncilSettings) (freeUsdt : ℚ)
  | previewManualTrade (request : ManualTradeRequest)
  | placeOrder (request : OrderRequest)
  | appendTradingLog (message : String)
  | currentTime

@[reducible] def Result : Op → Type
  | .findConfig => Option ConfigRow
  | .write _ => Unit
  | .postPeak _ => Unit
  | .landPeak _ => Unit
  | .takeSkim => Bool
  | .findTradingConnection _ => Bool
  | .findAnyConnection => Option String
  | .loadConnection _ => Option ApiKeys
  | .computeAutomationReadiness _ => Bool
  | .getBalances _ => List AdapterBalance
  | .fetchBookTicker _ => Option BookTicker
  | .getCexExitSettings => ExitSettings
  | .cexCouncilEvaluate _ _ => CouncilDecision
  | .previewManualTrade _ => ManualPreflight
  | .placeOrder _ => PlacedOrder
  | .appendTradingLog _ => Unit
  | .currentTime => ℕ

/-- The row is read and written as a store, a peak is posted at once, the clock and the cooldown
are read at a time, and everything else answers or fails. -/
@[reducible] def Fate : Op → Type
  | .findConfig => Delivery
  | .write _ => Delivery
  | .postPeak _ => Unit
  | .landPeak _ => Delivery
  | .takeSkim => ℕ
  | .currentTime => ℕ
  | op => Except String (Result op)

def cexSkimCooldownMs : ℕ := 45000

/-- `Date.now() - lastSkim >= CEX_SKIM_COOLDOWN_MS`. -/
def Machine.skimReady (machine : Machine) (now : ℕ) : Bool :=
  cexSkimCooldownMs ≤ now - machine.skimmedAt.getD 0

def Machine.put (machine : Machine) (data : Write) : Machine :=
  { machine with row := data.land machine.row }

def perform : (op : Op) → Fate op → Machine → Machine × Except String (Result op)
  | .findConfig, delivery, machine => delivery.read machine machine.row
  | .write data, delivery, machine =>
    if (data.land machine.row).isSome then delivery.write machine (machine.put data) ()
    else (machine, .error "Record to update not found.")
  | .postPeak peak, _, machine => ({ machine with posted := machine.posted ++ [peak] }, .ok ())
  | .landPeak position, delivery, machine =>
    match machine.posted[position]? with
    | some peak =>
      let sent := { machine with posted := machine.posted.eraseIdx position }
      delivery.write sent (sent.put (.raisePeak peak)) ()
    | none => (machine, .ok ())
  | .takeSkim, now, machine =>
    if machine.skimReady now then ({ machine with skimmedAt := some now }, .ok true)
    else (machine, .ok false)
  | .currentTime, now, machine => (machine, .ok now)
  | .findTradingConnection _, answer, machine => (machine, answer)
  | .findAnyConnection, answer, machine => (machine, answer)
  | .loadConnection _, answer, machine => (machine, answer)
  | .computeAutomationReadiness _, answer, machine => (machine, answer)
  | .getBalances _, answer, machine => (machine, answer)
  | .fetchBookTicker _, answer, machine => (machine, answer)
  | .getCexExitSettings, answer, machine => (machine, answer)
  | .cexCouncilEvaluate _ _, answer, machine => (machine, answer)
  | .previewManualTrade _, answer, machine => (machine, answer)
  | .placeOrder _, answer, machine => (machine, answer)
  | .appendTradingLog _, answer, machine => (machine, answer)

/-- The outside world of the CEX machine. -/
abbrev binance : Async.Service where
  State := Machine
  Op := Op
  Result := Result
  Failure := String
  Fate := Fate
  perform := perform

/-- A call of the CEX machine or the manual desk. -/
abbrev Call (Value : Type) := Async.Program binance Value

def await (op : Op) : Call (Result op) := @Async.Program.perform binance op

end GdslExchange.Cex
