/-
This file models the config row of the CEX super machine, the open lot it holds,
and how a tick decides about the lot.

The row is the whole memory of the machine: the settings, the eleven columns of
the open lot and the times of the last buy and the last tick.
-/

import GdslExchange.Exits.Rule
import GdslExchange.Jupiter.Exits

namespace GdslExchange.Cex

open Exits (ExitDecision ExitReason ExitSettings)
open Jupiter (profitPct)
open Numeric

/-! ### The row -/

/-- `CexSuperMachineConfig`. -/
structure ConfigRow where
  enabled : Bool
  exchangeConnectionId : Option String
  watchSymbol : String
  maxTradeUsd : ℚ
  emergencyStop : Bool
  openSymbol : Option String
  openPair : Option String
  openEntryPrice : Option ℚ
  openBaseQty : Option ℚ
  openQuoteSpent : Option ℚ
  openedAt : Option ℕ
  openTakeProfitPct : Option ℚ
  openStopLossPct : Option ℚ
  openTrailingStop : Option Bool
  openTrailingPeak : Option ℚ
  openSkimmedUsd : Option ℚ
  lastBuyAt : Option ℕ
  lastTickAt : Option ℕ

/-- `symbol.replace(/USDT$|USDC$/i, '')`. -/
def stripQuote (symbol : String) : String :=
  if symbol.toUpper.endsWith "USDT" ∨ symbol.toUpper.endsWith "USDC" then
    (symbol.dropEnd 4).toString
  else symbol

def pairFromCexSymbol (symbol : String) : String :=
  let base := (stripQuote symbol).toUpper
  if symbol.endsWith "USDC" then base ++ "/USDC" else base ++ "/USDT"

/-- `CexOpenLong`. A lot has a price and a quantity. -/
@[ext]
structure CexOpenLong where
  symbol : String
  pair : String
  entryPrice : ℚ
  baseQty : ℚ
  quoteSpent : ℚ
  skimmedUsd : ℚ
  takeProfitPct : Option ℚ
  stopLossPct : Option ℚ
  trailingStop : Option Bool
  trailingPeak : Option ℚ
  entryPrice_pos : 0 < entryPrice
  baseQty_pos : 0 < baseQty

instance : DecidableEq CexOpenLong := fun _ _ => decidable_of_iff _ CexOpenLong.ext_iff.symm

/-- The open lot of a row, `none` when the row is flat. -/
def toOpenLong (row : ConfigRow) : Option CexOpenLong :=
  match row.openSymbol, row.openBaseQty, row.openEntryPrice with
  | some symbol, some baseQty, some entryPrice =>
    if positive : symbol ≠ "" ∧ baseQty > 0 ∧ entryPrice > 0 then
      some {
        symbol := symbol
        pair := row.openPair.getD (pairFromCexSymbol symbol)
        entryPrice := entryPrice
        baseQty := baseQty
        quoteSpent := row.openQuoteSpent.getD 0
        skimmedUsd := row.openSkimmedUsd.getD 0
        takeProfitPct := row.openTakeProfitPct
        stopLossPct := row.openStopLossPct
        trailingStop := row.openTrailingStop
        trailingPeak := row.openTrailingPeak
        entryPrice_pos := positive.2.2
        baseQty_pos := positive.2.1 }
    else none
  | _, _, _ => none

/-! ### The skim slice -/

def cexMinSellNotionalUsd : ℚ := 55 / 10

def ghostLotFraction : ℚ := 5 / 100

structure CexSkimSlice where
  pnlPct : ℚ
  skimQty : ℚ
  skimNotionalUsd : ℚ
  lotNotionalUsd : ℚ
  blockedReason : Option String

def computeCexSkimSlice (long : CexOpenLong) (mark : ℚ) (freeBase : Option ℚ) : CexSkimSlice :=
  let pnlPct := profitPct long.entryPrice mark
  let blocked (notional : ℚ) (reason : String) : CexSkimSlice :=
    { pnlPct := pnlPct
      skimQty := 0
      skimNotionalUsd := notional
      lotNotionalUsd := long.baseQty * mark
      blockedReason := some reason }
  if pnlPct ≤ 5 / 100 then blocked 0 "Not in profit yet"
  else
    let profitUsd := long.quoteSpent * (pnlPct / 100)
    let half := min (long.baseQty * (1 / 2)) (profitUsd / mark)
    let skimQty := match freeBase with
      | some free => if free > 0 then min half (free * (98 / 100)) else half
      | none => half
    if skimQty ≤ 0 ∨ skimQty ≥ long.baseQty * (9 / 10) then
      blocked 0 "Profit slice is too small to skim yet"
    else if skimQty * mark < cexMinSellNotionalUsd then
      blocked (skimQty * mark) ("Profit slice ~$" ++ (toFixed 2 (skimQty * mark)).render ++
        " is under Binance's $5 minimum order")
    else
      { pnlPct := pnlPct
        skimQty := skimQty
        skimNotionalUsd := skimQty * mark
        lotNotionalUsd := long.baseQty * mark
        blockedReason := none }

/-! ### The exit decision -/

namespace CexOpenLong

variable (long : CexOpenLong) (exit : ExitSettings)

/-- The coin has left the account. -/
def IsGhost (freeBase : ℚ) : Prop := freeBase < long.baseQty * ghostLotFraction

instance (freeBase : ℚ) : Decidable (long.IsGhost freeBase) := by
  unfold IsGhost; infer_instance

/-- The stop in percent: after a skim, near break-even. -/
def sl : ℚ :=
  let slBase := long.stopLossPct.getD exit.stopLossPct
  if long.skimmedUsd > 0 then min slBase (35 / 100) else slBase

/-- Never more than the account holds. -/
def closing (freeBase : ℚ) (reason : Option ExitReason) : ExitDecision :=
  { reason := reason, sellQty := min long.baseQty freeBase }

/-- At the take-profit: the profit slice where it may be skimmed, otherwise the whole lot. -/
def takeProfit (freeBase : ℚ) (skimReady : Bool) (mark : ℚ) : ExitDecision :=
  let slice := computeCexSkimSlice long mark (some freeBase)
  if exit.profitSkim ∧ skimReady ∧ slice.blockedReason = none then
    { reason := some .profitSkim, sellQty := slice.skimQty, partialSkim := true }
  else long.closing freeBase (some .takeProfit)

/-- Trailing stop v2, with the hard stop under it. -/
def trail (freeBase : ℚ) (mark : ℚ) : ExitDecision :=
  let pnlPct := profitPct long.entryPrice mark
  let prevPeak := long.trailingPeak.getD 0
  let peak := max prevPeak mark
  let armed := decide (peak ≥ long.entryPrice * (1 + exit.trailingActivationPct / 100))
  let trailFloor :=
    max (peak * (1 - exit.trailingDeltaPct / 100)) (long.entryPrice * (1001 / 1000))
  let reason :=
    if armed ∧ mark ≤ trailFloor ∧ pnlPct > 0 then some .trailingStop
    else if pnlPct ≤ -long.sl exit then some .stopLoss
    else none
  { long.closing freeBase reason with
    peakWrite := if peak > prevPeak then some peak else none
    armed := armed }

/-- The exit decision of `tickUser` at a mark. -/
def decideExit (freeBase : ℚ) (skimReady : Bool) (mark : ℚ) : ExitDecision :=
  let pnlPct := profitPct long.entryPrice mark
  let tp := long.takeProfitPct.getD exit.takeProfitPct
  let trailingOn := long.trailingStop.getD exit.trailingStop
  if exit.enabled then
    if pnlPct ≥ tp then long.takeProfit exit freeBase skimReady mark
    else if trailingOn then long.trail exit freeBase mark
    else if pnlPct ≤ -long.sl exit then long.closing freeBase (some .stopLoss)
    else long.closing freeBase none
  else long.closing freeBase none

/-- What `tickUser` decides about its lot: nothing where the coin has left the account or there is
no price. -/
def visit (freeBase : ℚ) (quoted : Option ℚ) (skimReady : Bool) : Option ExitDecision :=
  if long.IsGhost freeBase then none
  else quoted.map fun mark => long.decideExit exit freeBase skimReady mark

end CexOpenLong

end GdslExchange.Cex
