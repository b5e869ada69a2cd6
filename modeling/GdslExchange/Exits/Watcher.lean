/-
This file models how the Jupiter open-position watcher decides about one OPEN
lot: the skim, the take-profit, the trail and the stop.

The quote, the decimals of the token and the cooldowns are inputs; the swap that
follows a decision is not part of it.
-/

import GdslExchange.Exits.Rule
import GdslExchange.Jupiter.Exits

namespace GdslExchange.Exits

open Jupiter (profitPct floorTo)

/-- The columns of an OPEN trade that an exit is decided on. -/
structure OpenTrade where
  entryPrice : ℚ
  allocationUsd : Option ℚ
  pnl : Option ℚ
  takeProfitPct : Option ℚ
  stopLossPct : Option ℚ
  trailingStop : Option Bool
  trailingPeak : Option ℚ

namespace OpenTrade

variable (trade : OpenTrade) (prefs : ExitSettings)

/-- `Number(t.allocationUsd ?? 0)`. -/
def buyAlloc : ℚ := trade.allocationUsd.getD 0

def lotQty : ℚ := trade.buyAlloc / trade.entryPrice

/-- The stop in percent: once profit has been skimmed off, near break-even. -/
def sl : ℚ :=
  let slBase := trade.stopLossPct.getD prefs.stopLossPct
  if trade.pnl.getD 0 > 0 then min slBase (35 / 100) else slBase

/-- The skim slice at the take-profit. A slice that is too small or too large leaves the lot
open. -/
def skim (skimReady : Bool) (decimals : Option ℕ) (exitMark : ℚ) : ExitDecision :=
  if skimReady then
    let profitUsd := trade.buyAlloc * (profitPct trade.entryPrice exitMark / 100)
    let skimQty := min (trade.lotQty * (4 / 10)) (profitUsd / exitMark)
    let sellQty := floorTo (decimals.getD 6) skimQty
    if sellQty > 0 ∧ sellQty < trade.lotQty * (9 / 10) then
      { reason := some .profitSkim, sellQty := sellQty, partialSkim := true }
    else { sellQty := sellQty }
  else { sellQty := trade.lotQty }

/-- Trailing stop v2, with the hard stop under it. -/
def trail (exitMark : ℚ) : ExitDecision :=
  let pct := profitPct trade.entryPrice exitMark
  let prevPeak := trade.trailingPeak.getD 0
  let peak := max prevPeak exitMark
  let armed := decide (peak ≥ trade.entryPrice * (1 + prefs.trailingActivationPct / 100))
  let deltaFloor := peak * (1 - prefs.trailingDeltaPct / 100)
  let breakEvenFloor := trade.entryPrice * (1001 / 1000)
  let trailFloor := max deltaFloor breakEvenFloor
  { reason :=
      if armed ∧ exitMark ≤ trailFloor ∧ pct > 0 then some .trailingStop
      else if pct ≤ -trade.sl prefs then some .stopLoss
      else none
    sellQty := trade.lotQty
    peakWrite := if peak > prevPeak then some peak else none
    armed := armed }

def decideExit (skimReady : Bool) (decimals : Option ℕ) (exitMark : ℚ) : ExitDecision :=
  let pct := profitPct trade.entryPrice exitMark
  let tp := trade.takeProfitPct.getD prefs.takeProfitPct
  let trailingOn := trade.trailingStop.getD prefs.trailingStop
  if pct ≥ tp ∧ prefs.profitSkim then trade.skim skimReady decimals exitMark
  else if pct ≥ tp ∧ !prefs.profitSkim then
    { reason := some .takeProfit, sellQty := trade.lotQty }
  else if trailingOn then trade.trail prefs exitMark
  else if pct ≤ -trade.sl prefs then { reason := some .stopLoss, sellQty := trade.lotQty }
  else { sellQty := trade.lotQty }

/-- What a pass of `runJupiterOpenPositionWatcher` decides about the lot: nothing while the lot
cools down, where it has no size or its exits are off, and without a quote. -/
def visit (cooling : Bool) (quoted : Option ℚ) (skimReady : Bool) (decimals : Option ℕ) :
    Option ExitDecision :=
  if cooling then none
  else if trade.entryPrice ≤ 0 ∨ trade.buyAlloc ≤ 0 then none
  else if !prefs.enabled then none
  else quoted.map fun exitMark => trade.decideExit prefs skimReady decimals exitMark

end OpenTrade

end GdslExchange.Exits
