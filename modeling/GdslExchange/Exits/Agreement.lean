/-
This file shows that the two exit engines follow the one rule, each in percent
of the entry price, and hence agree.

Where profit is not skimmed, the engines choose the exit of the rule and leave
its peak. What the rule promises then holds of both: a trail never sells at a
loss, and at its stop a lot is given up as a whole.
-/

import GdslExchange.Cex.Lot
import GdslExchange.Exits.Watcher

namespace GdslExchange.Exits

open Cex (CexOpenLong)
open Jupiter (profitPct)

/-! ### Percent and price -/

section Percent

variable {entry mark pct : ℚ} (entry_pos : 0 < entry)
include entry_pos

theorem le_profitPct_iff : pct ≤ profitPct entry mark ↔ entry * (1 + pct / 100) ≤ mark := by
  unfold profitPct
  rw [div_mul_eq_mul_div, le_div_iff₀ entry_pos]
  constructor
  · intro le
    linarith
  · intro le
    linarith

theorem profitPct_le_iff : profitPct entry mark ≤ -pct ↔ mark ≤ entry * (1 - pct / 100) := by
  unfold profitPct
  rw [div_mul_eq_mul_div, div_le_iff₀ entry_pos]
  constructor
  · intro le
    linarith
  · intro le
    linarith

theorem profitPct_pos_iff : 0 < profitPct entry mark ↔ entry < mark := by
  unfold profitPct
  rw [div_mul_eq_mul_div, lt_div_iff₀ entry_pos]
  constructor
  · intro lt
    linarith
  · intro lt
    linarith

end Percent

/-! ### The lot in the two books -/

namespace Lot

variable (lot : Lot)

/-- The lot as an OPEN trade of the Jupiter book. -/
def trade : OpenTrade where
  entryPrice := lot.entryPrice
  allocationUsd := some (lot.quantity * lot.entryPrice)
  pnl := lot.banked
  takeProfitPct := lot.takeProfitPct
  stopLossPct := lot.stopLossPct
  trailingStop := lot.trailingStop
  trailingPeak := lot.peak

def long (symbol pair : String) : CexOpenLong where
  symbol := symbol
  pair := pair
  entryPrice := lot.entryPrice
  baseQty := lot.quantity
  quoteSpent := lot.quantity * lot.entryPrice
  skimmedUsd := lot.banked.getD 0
  takeProfitPct := lot.takeProfitPct
  stopLossPct := lot.stopLossPct
  trailingStop := lot.trailingStop
  trailingPeak := lot.peak
  entryPrice_pos := lot.entryPrice_pos
  baseQty_pos := lot.quantity_pos

variable {lot}
variable {settings : ExitSettings} {symbol pair : String}

theorem trade_lotQty : lot.trade.lotQty = lot.quantity :=
  mul_div_cancel_right₀ lot.quantity lot.entryPrice_pos.ne'

theorem trade_buyAlloc_pos : 0 < lot.trade.buyAlloc :=
  mul_pos lot.quantity_pos lot.entryPrice_pos

theorem trade_sl : lot.trade.sl settings = lot.stopPct settings := rfl

theorem long_sl : (lot.long symbol pair).sl settings = lot.stopPct settings := rfl

end Lot

def ExitDecision.peakAfter (decision : ExitDecision) (peak : Option ℚ) : Option ℚ :=
  decision.peakWrite.or peak

/-- A decision that leaves the peak and the trail alone. -/
def ExitDecision.Still (decision : ExitDecision) : Prop :=
  decision.peakWrite = none ∧ decision.armed = false

variable {lot : Lot} {settings : ExitSettings} {mark : ℚ}

theorem Lot.exit_of_follows (follows : lot.Follows settings mark) :
    lot.exit settings mark =
      if lot.armingPrice settings ≤ lot.raised mark ∧
          mark ≤ lot.trailFloor settings (lot.raised mark) ∧ lot.entryPrice < mark then
        some .trailingStop
      else if mark ≤ lot.stop settings then some .stopLoss
      else none := by
  unfold Lot.exit Lot.Retreats
  rw [if_neg (not_not.mpr follows.1), if_neg (not_le.mpr follows.2.1)]
  simp only [follows, true_and]

theorem Lot.exit_of_disabled (disabled : settings.enabled = false) :
    lot.exit settings mark = none := by
  unfold Lot.exit
  rw [if_pos (by simp [disabled])]

theorem Lot.exit_of_target (enabled : settings.enabled = true)
    (reached : lot.target settings ≤ mark) : lot.exit settings mark = some .takeProfit := by
  unfold Lot.exit
  rw [if_neg (not_not.mpr enabled), if_pos reached]

theorem Lot.exit_of_still (enabled : settings.enabled = true)
    (below : ¬ lot.target settings ≤ mark) (still : ¬ lot.Trails settings) :
    lot.exit settings mark = if mark ≤ lot.stop settings then some .stopLoss else none := by
  unfold Lot.exit
  rw [if_neg (not_not.mpr enabled), if_neg below,
    if_neg fun retreats : lot.Retreats settings mark => still retreats.1.2.2]

theorem Lot.newPeak_of_not_follows (stays : ¬ lot.Follows settings mark) :
    lot.newPeak settings mark = lot.peak := by
  unfold Lot.newPeak
  rw [if_neg fun raises => stays raises.1]

/-- An engine whose trailing branch writes a higher peak leaves the peak of the rule. -/
theorem Lot.newPeak_of_follows (follows : lot.Follows settings mark) :
    (if lot.raised mark > lot.peak.getD 0 then some (lot.raised mark) else none).or lot.peak =
      lot.newPeak settings mark := by
  unfold Lot.newPeak Lot.raised
  by_cases higher : lot.peak.getD 0 < mark
  · rw [if_pos (lt_max_of_lt_right higher), if_pos ⟨follows, higher⟩,
      max_eq_right higher.le, Option.some_or]
  · rw [max_eq_left (not_lt.mp higher), if_neg (lt_irrefl _),
      if_neg fun raises => higher raises.2, Option.none_or]

theorem Lot.regions (lot : Lot) (settings : ExitSettings) (mark : ℚ) :
    settings.enabled = false ∨
      (settings.enabled = true ∧ lot.target settings ≤ mark) ∨
      lot.Follows settings mark ∨
      (settings.enabled = true ∧ ¬ lot.target settings ≤ mark ∧ ¬ lot.Trails settings) := by
  unfold Lot.Follows
  rw [← not_le]
  cases settings.enabled
  · exact Or.inl rfl
  · tauto

/-! ### The watcher -/

section Watcher

variable {skimReady : Bool} {decimals : Option ℕ}

theorem trade_takeProfit_iff :
    profitPct lot.trade.entryPrice mark ≥ lot.trade.takeProfitPct.getD settings.takeProfitPct ↔
      lot.target settings ≤ mark :=
  le_profitPct_iff lot.entryPrice_pos

theorem visit_eq (enabled : settings.enabled = true) :
    lot.trade.visit settings false (some mark) skimReady decimals =
      some (lot.trade.decideExit settings skimReady decimals mark) := by
  have sized : ¬ (lot.trade.entryPrice ≤ 0 ∨ lot.trade.buyAlloc ≤ 0) :=
    not_or.mpr ⟨not_le.mpr lot.entryPrice_pos, not_le.mpr Lot.trade_buyAlloc_pos⟩
  unfold OpenTrade.visit
  rw [if_neg Bool.false_ne_true, if_neg sized, enabled]
  rfl

theorem visit_of_disabled (disabled : settings.enabled = false) {quoted : Option ℚ} :
    lot.trade.visit settings false quoted skimReady decimals = none := by
  unfold OpenTrade.visit
  simp [disabled]

theorem trade_decideExit_of_target (unskimmed : settings.profitSkim = false)
    (reached : lot.target settings ≤ mark) :
    lot.trade.decideExit settings skimReady decimals mark =
      { reason := some .takeProfit, sellQty := lot.quantity } := by
  unfold OpenTrade.decideExit
  simp only [trade_takeProfit_iff, reached, unskimmed, Lot.trade_lotQty]
  rfl

theorem trade_skim_still : (lot.trade.skim skimReady decimals mark).Still := by
  unfold OpenTrade.skim
  dsimp only
  split
  · split
    · exact ⟨rfl, rfl⟩
    · exact ⟨rfl, rfl⟩
  · exact ⟨rfl, rfl⟩

/-- At its target a lot keeps its peak, whether profit is skimmed or not. -/
theorem trade_decideExit_still (reached : lot.target settings ≤ mark) :
    (lot.trade.decideExit settings skimReady decimals mark).Still := by
  unfold OpenTrade.decideExit
  simp only [trade_takeProfit_iff, reached, true_and]
  cases settings.profitSkim
  · exact ⟨rfl, rfl⟩
  · exact trade_skim_still

theorem trade_decideExit_of_not_target (below : ¬ lot.target settings ≤ mark) :
    lot.trade.decideExit settings skimReady decimals mark =
      if lot.Trails settings then lot.trade.trail settings mark
      else if mark ≤ lot.stop settings then { reason := some .stopLoss, sellQty := lot.quantity }
      else { sellQty := lot.quantity } := by
  have entry_pos : 0 < lot.trade.entryPrice := lot.entryPrice_pos
  unfold OpenTrade.decideExit
  simp only [trade_takeProfit_iff, below, profitPct_le_iff entry_pos, Lot.trade_lotQty,
    Lot.trade_sl, false_and, if_false]
  rfl

theorem trade_trail_eq (follows : lot.Follows settings mark) :
    lot.trade.trail settings mark =
      { reason := lot.exit settings mark
        sellQty := lot.quantity
        peakWrite := if lot.raised mark > lot.peak.getD 0 then some (lot.raised mark) else none
        armed := decide (lot.armingPrice settings ≤ lot.raised mark) } := by
  have entry_pos : 0 < lot.trade.entryPrice := lot.entryPrice_pos
  rw [Lot.exit_of_follows follows]
  unfold OpenTrade.trail
  simp only [decide_eq_true_eq, gt_iff_lt, ge_iff_le, Lot.trade_sl, Lot.trade_lotQty,
    profitPct_pos_iff entry_pos, profitPct_le_iff entry_pos]
  rfl

/-- Where profit is not skimmed, the watcher follows the rule. -/
theorem visit_eq_exit (unskimmed : settings.profitSkim = false) :
    (lot.trade.visit settings false (some mark) skimReady decimals).bind ExitDecision.reason =
        lot.exit settings mark ∧
      ((lot.trade.visit settings false (some mark) skimReady decimals).bind
          ExitDecision.peakWrite).or lot.peak = lot.newPeak settings mark := by
  obtain disabled | ⟨enabled, reached⟩ | follows | ⟨enabled, below, still⟩ :=
    lot.regions settings mark
  · rw [visit_of_disabled disabled, Lot.exit_of_disabled disabled,
      Lot.newPeak_of_not_follows fun follows =>
        Bool.false_ne_true (disabled.symm.trans follows.1)]
    exact ⟨rfl, rfl⟩
  · rw [visit_eq enabled, trade_decideExit_of_target unskimmed reached,
      Lot.exit_of_target enabled reached,
      Lot.newPeak_of_not_follows fun follows => not_lt.mpr reached follows.2.1]
    exact ⟨rfl, rfl⟩
  · rw [visit_eq follows.1, trade_decideExit_of_not_target (not_le.mpr follows.2.1),
      if_pos follows.2.2, trade_trail_eq follows]
    exact ⟨rfl, Lot.newPeak_of_follows follows⟩
  · rw [visit_eq enabled, trade_decideExit_of_not_target below, if_neg still,
      Lot.exit_of_still enabled below still,
      Lot.newPeak_of_not_follows fun follows => still follows.2.2]
    split
    · exact ⟨rfl, rfl⟩
    · exact ⟨rfl, rfl⟩

end Watcher

/-! ### The CEX machine -/

section Machine

variable {symbol pair : String} {freeBase : ℚ} {skimReady : Bool}

theorem long_visit_eq (held : ¬ (lot.long symbol pair).IsGhost freeBase) :
    (lot.long symbol pair).visit settings freeBase (some mark) skimReady =
      some ((lot.long symbol pair).decideExit settings freeBase skimReady mark) := by
  unfold CexOpenLong.visit
  rw [if_neg held]
  rfl

theorem long_takeProfit_iff :
    profitPct (lot.long symbol pair).entryPrice mark ≥
        (lot.long symbol pair).takeProfitPct.getD settings.takeProfitPct ↔
      lot.target settings ≤ mark :=
  le_profitPct_iff lot.entryPrice_pos

theorem long_decideExit_of_disabled (disabled : settings.enabled = false) :
    (lot.long symbol pair).decideExit settings freeBase skimReady mark =
      { reason := none, sellQty := min lot.quantity freeBase } := by
  unfold CexOpenLong.decideExit
  rw [disabled]
  rfl

theorem long_decideExit_of_reached (enabled : settings.enabled = true)
    (reached : lot.target settings ≤ mark) :
    (lot.long symbol pair).decideExit settings freeBase skimReady mark =
      (lot.long symbol pair).takeProfit settings freeBase skimReady mark := by
  unfold CexOpenLong.decideExit
  simp only [long_takeProfit_iff, reached, enabled, if_true]

theorem long_decideExit_of_target (unskimmed : settings.profitSkim = false)
    (enabled : settings.enabled = true) (reached : lot.target settings ≤ mark) :
    (lot.long symbol pair).decideExit settings freeBase skimReady mark =
      { reason := some .takeProfit, sellQty := min lot.quantity freeBase } := by
  rw [long_decideExit_of_reached enabled reached]
  unfold CexOpenLong.takeProfit
  simp only [unskimmed, Bool.false_eq_true, false_and, if_false]
  rfl

theorem long_takeProfit_still :
    ((lot.long symbol pair).takeProfit settings freeBase skimReady mark).Still := by
  unfold CexOpenLong.takeProfit
  dsimp only
  split
  · exact ⟨rfl, rfl⟩
  · exact ⟨rfl, rfl⟩

theorem long_decideExit_of_not_target (enabled : settings.enabled = true)
    (below : ¬ lot.target settings ≤ mark) :
    (lot.long symbol pair).decideExit settings freeBase skimReady mark =
      if lot.Trails settings then (lot.long symbol pair).trail settings freeBase mark
      else if mark ≤ lot.stop settings then
        { reason := some .stopLoss, sellQty := min lot.quantity freeBase }
      else { sellQty := min lot.quantity freeBase } := by
  have entry_pos : 0 < (lot.long symbol pair).entryPrice := lot.entryPrice_pos
  unfold CexOpenLong.decideExit
  simp only [long_takeProfit_iff, below, enabled, profitPct_le_iff entry_pos, Lot.long_sl,
    if_true, if_false]
  rfl

theorem long_trail_eq (follows : lot.Follows settings mark) :
    (lot.long symbol pair).trail settings freeBase mark =
      { reason := lot.exit settings mark
        sellQty := min lot.quantity freeBase
        peakWrite := if lot.raised mark > lot.peak.getD 0 then some (lot.raised mark) else none
        armed := decide (lot.armingPrice settings ≤ lot.raised mark) } := by
  have entry_pos : 0 < (lot.long symbol pair).entryPrice := lot.entryPrice_pos
  rw [Lot.exit_of_follows follows]
  unfold CexOpenLong.trail
  simp only [decide_eq_true_eq, gt_iff_lt, ge_iff_le, Lot.long_sl, profitPct_pos_iff entry_pos,
    profitPct_le_iff entry_pos]
  rfl

/-- Where profit is not skimmed, the CEX machine follows the rule. -/
theorem long_decideExit_eq_exit (unskimmed : settings.profitSkim = false) :
    ((lot.long symbol pair).decideExit settings freeBase skimReady mark).reason =
        lot.exit settings mark ∧
      ((lot.long symbol pair).decideExit settings freeBase skimReady mark).peakWrite.or
          lot.peak = lot.newPeak settings mark := by
  obtain disabled | ⟨enabled, reached⟩ | follows | ⟨enabled, below, still⟩ :=
    lot.regions settings mark
  · rw [long_decideExit_of_disabled disabled, Lot.exit_of_disabled disabled,
      Lot.newPeak_of_not_follows fun follows =>
        Bool.false_ne_true (disabled.symm.trans follows.1)]
    exact ⟨rfl, rfl⟩
  · rw [long_decideExit_of_target unskimmed enabled reached, Lot.exit_of_target enabled reached,
      Lot.newPeak_of_not_follows fun follows => not_lt.mpr reached follows.2.1]
    exact ⟨rfl, rfl⟩
  · rw [long_decideExit_of_not_target follows.1 (not_le.mpr follows.2.1), if_pos follows.2.2,
      long_trail_eq follows]
    exact ⟨rfl, Lot.newPeak_of_follows follows⟩
  · rw [long_decideExit_of_not_target enabled below, if_neg still,
      Lot.exit_of_still enabled below still,
      Lot.newPeak_of_not_follows fun follows => still follows.2.2]
    split
    · exact ⟨rfl, rfl⟩
    · exact ⟨rfl, rfl⟩

end Machine

/-! ### Both engines -/

/-- The whole lot is given up at its stop. -/
def ExitDecision.GivesUp (decision : ExitDecision) (quantity : ℚ) : Prop :=
  decision.reason = some .stopLoss ∧ decision.sellQty = quantity ∧ decision.partialSkim = false

instance (decision : ExitDecision) (quantity : ℚ) : Decidable (decision.GivesUp quantity) := by
  unfold ExitDecision.GivesUp; infer_instance

section Both

variable {skimReady : Bool} {decimals : Option ℕ}
variable {symbol pair : String} {freeBase : ℚ}
variable (enabled : settings.enabled = true)
  (positive : 0 < lot.takeProfitPct.getD settings.takeProfitPct)
  (low : mark ≤ lot.stop settings)
include enabled positive low

omit enabled in
theorem not_target_of_le_stop : ¬ lot.target settings ≤ mark :=
  not_le.mpr ((low.trans Lot.stop_le_entryPrice).trans_lt (Lot.entryPrice_lt_target positive))

theorem trade_givesUp :
    (lot.trade.decideExit settings skimReady decimals mark).GivesUp lot.quantity := by
  have below := not_target_of_le_stop positive low
  rw [trade_decideExit_of_not_target below]
  by_cases trails : lot.Trails settings
  · rw [if_pos trails, trade_trail_eq ⟨enabled, not_le.mp below, trails⟩]
    exact ⟨Lot.exit_of_le_stop enabled positive low, rfl, rfl⟩
  · rw [if_neg trails, if_pos low]
    exact ⟨rfl, rfl, rfl⟩

theorem long_givesUp :
    ((lot.long symbol pair).decideExit settings freeBase skimReady mark).GivesUp
      (min lot.quantity freeBase) := by
  have below := not_target_of_le_stop positive low
  rw [long_decideExit_of_not_target enabled below]
  by_cases trails : lot.Trails settings
  · rw [if_pos trails, long_trail_eq ⟨enabled, not_le.mp below, trails⟩]
    exact ⟨Lot.exit_of_le_stop enabled positive low, rfl, rfl⟩
  · rw [if_neg trails, if_pos low]
    exact ⟨rfl, rfl, rfl⟩

end Both

section Example

private theorem wifLot_entry : (0 : ℚ) < 2 := by
  norm_num

private theorem wifLot_quantity : (0 : ℚ) < 10 := by
  norm_num

/-- A lot bought at 2, with a peak that has armed its trail. -/
private def wifLot : Lot where
  entryPrice := 2
  quantity := 10
  peak := some (5 / 2)
  banked := none
  takeProfitPct := none
  stopLossPct := none
  trailingStop := none
  entryPrice_pos := wifLot_entry
  quantity_pos := wifLot_quantity
  stopLossPct_nonneg := stopLossPct_unset

private def trailing (enabled : Bool) : ExitSettings where
  enabled := enabled
  takeProfitPct := 30
  stopLossPct := 5
  profitSkim := false
  trailingStop := true
  trailingActivationPct := 8 / 10
  trailingDeltaPct := 4 / 10
  stopLossPct_nonneg := by norm_num

end Example

end GdslExchange.Exits
