/-
This file says what the exit engines of open lots are for, in terms of prices.

A lot is sold at its target; while it trails, it is sold on the way back from an
armed peak, but never at a loss; and it is sold at its stop. The engines compute
the same in percent of the entry price.
-/

import Mathlib.Data.Rat.Defs
import Mathlib.Tactic.Linarith
import Mathlib.Tactic.NormNum

namespace GdslExchange.Exits

inductive ExitReason where
  | takeProfit
  | profitSkim
  | stopLoss
  | trailingStop
deriving DecidableEq

/-- `JupiterExitSettings` and `CexExitSettings`. Both services clamp the stop-loss to at least a
tenth of a percent. -/
structure ExitSettings where
  enabled : Bool
  takeProfitPct : ℚ
  stopLossPct : ℚ
  profitSkim : Bool
  trailingStop : Bool
  trailingActivationPct : ℚ
  trailingDeltaPct : ℚ
  stopLossPct_nonneg : 0 ≤ stopLossPct

/-- What an engine decides about a lot at a mark: why and how much it sells, the peak it writes, and
whether the trail was armed. -/
structure ExitDecision where
  reason : Option ExitReason := none
  sellQty : ℚ
  partialSkim : Bool := false
  peakWrite : Option ℚ := none
  armed : Bool := false

/-- Once profit has been skimmed off a lot its stop is near break-even. -/
def skimmedStopPct : ℚ := 35 / 100

/-- An open lot, with what its owner has set for it and the profit banked from it. -/
structure Lot where
  entryPrice : ℚ
  quantity : ℚ
  peak : Option ℚ
  banked : Option ℚ
  takeProfitPct : Option ℚ
  stopLossPct : Option ℚ
  trailingStop : Option Bool
  entryPrice_pos : 0 < entryPrice
  quantity_pos : 0 < quantity
  stopLossPct_nonneg : ∀ pct ∈ stopLossPct, 0 ≤ pct

/-- A lot that has no stop of its own. -/
theorem stopLossPct_unset : ∀ pct ∈ (none : Option ℚ), 0 ≤ pct := by
  simp

namespace Lot

variable (lot : Lot) (settings : ExitSettings)

def target : ℚ := lot.entryPrice * (1 + lot.takeProfitPct.getD settings.takeProfitPct / 100)

def stopPct : ℚ :=
  if 0 < lot.banked.getD 0 then
    min (lot.stopLossPct.getD settings.stopLossPct) skimmedStopPct
  else lot.stopLossPct.getD settings.stopLossPct

def stop : ℚ := lot.entryPrice * (1 - lot.stopPct settings / 100)

def Trails : Prop := lot.trailingStop.getD settings.trailingStop = true

instance : Decidable (lot.Trails settings) := by unfold Trails; infer_instance

def armingPrice : ℚ := lot.entryPrice * (1 + settings.trailingActivationPct / 100)

/-- The price below which an armed trail sells. -/
def trailFloor (peak : ℚ) : ℚ :=
  max (peak * (1 - settings.trailingDeltaPct / 100)) (lot.entryPrice * (1001 / 1000))

def raised (mark : ℚ) : ℚ := max (lot.peak.getD 0) mark

/-- A trailing lot that has not reached its target follows the mark. -/
def Follows (mark : ℚ) : Prop :=
  settings.enabled ∧ mark < lot.target settings ∧ lot.Trails settings

instance (mark : ℚ) : Decidable (lot.Follows settings mark) := by
  unfold Follows; infer_instance

def newPeak (mark : ℚ) : Option ℚ :=
  if lot.Follows settings mark ∧ lot.peak.getD 0 < mark then some mark else lot.peak

/-- Back from an armed peak, and still above the entry. -/
def Retreats (mark : ℚ) : Prop :=
  lot.Follows settings mark ∧ lot.armingPrice settings ≤ lot.raised mark ∧
    mark ≤ lot.trailFloor settings (lot.raised mark) ∧ lot.entryPrice < mark

instance (mark : ℚ) : Decidable (lot.Retreats settings mark) := by
  unfold Retreats; infer_instance

/-- Why the whole lot is sold at a mark, where profit is not skimmed. -/
def exit (mark : ℚ) : Option ExitReason :=
  if ¬ settings.enabled then none
  else if lot.target settings ≤ mark then some .takeProfit
  else if lot.Retreats settings mark then some .trailingStop
  else if mark ≤ lot.stop settings then some .stopLoss
  else none

variable {lot settings}

theorem stopPct_nonneg : 0 ≤ lot.stopPct settings := by
  have base : 0 ≤ lot.stopLossPct.getD settings.stopLossPct := by
    cases set : lot.stopLossPct with
    | none => exact settings.stopLossPct_nonneg
    | some pct => exact lot.stopLossPct_nonneg pct set
  unfold stopPct
  split
  · exact le_min base (by norm_num [skimmedStopPct])
  · exact base

theorem stop_le_entryPrice : lot.stop settings ≤ lot.entryPrice := by
  have entry := lot.entryPrice_pos
  have pct := @stopPct_nonneg lot settings
  unfold stop
  nlinarith

theorem entryPrice_lt_target (positive : 0 < lot.takeProfitPct.getD settings.takeProfitPct) :
    lot.entryPrice < lot.target settings := by
  have entry := lot.entryPrice_pos
  unfold target
  nlinarith

/-- An armed trail never sells at a loss. -/
theorem entryPrice_lt_of_trailingStop {mark : ℚ}
    (sold : lot.exit settings mark = some .trailingStop) : lot.entryPrice < mark := by
  by_contra notAbove
  have noRetreat : ¬ lot.Retreats settings mark := fun retreats => notAbove retreats.2.2.2
  unfold exit at sold
  rw [if_neg noRetreat] at sold
  split_ifs at sold <;> simp at sold

/-- At its stop the lot is given up, whatever the peak and whether it trails or not. -/
theorem exit_of_le_stop {mark : ℚ} (enabled : settings.enabled)
    (positive : 0 < lot.takeProfitPct.getD settings.takeProfitPct)
    (low : mark ≤ lot.stop settings) : lot.exit settings mark = some .stopLoss := by
  have belowEntry : mark ≤ lot.entryPrice := low.trans stop_le_entryPrice
  have belowTarget : ¬ lot.target settings ≤ mark :=
    not_le.mpr (belowEntry.trans_lt (entryPrice_lt_target positive))
  have noRetreat : ¬ lot.Retreats settings mark := fun retreats =>
    not_lt.mpr belowEntry retreats.2.2.2
  unfold exit
  rw [if_neg (not_not.mpr enabled), if_neg belowTarget, if_neg noRetreat, if_pos low]

end Lot

end GdslExchange.Exits
