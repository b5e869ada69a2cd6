/-
This file models what the paper bot decides from numbers: the prices and the
profit of a paper fill, the drawdown check, the checks of a new BUY, and the gate
every execution passes.
-/

import Mathlib.Algebra.Order.Field.Rat
import Mathlib.Data.Rat.Cast.Order
import Mathlib.Tactic.Linarith

namespace GdslExchange.Paper

/-! ### Fills -/

/-- The fee and the slippage that the environment may set, within the bounds it is read with. -/
structure PaperConfig where
  takerFeeBps : ℕ
  slippageBps : ℕ
  takerFeeBps_le : takerFeeBps ≤ 200
  slippageBps_le : slippageBps ≤ 500

namespace PaperConfig

/-- `DEFAULT_FEE_BPS` and `DEFAULT_ASSUMED_SLIPPAGE_BPS`. -/
def default : PaperConfig := ⟨10, 10, by decide, by decide⟩

variable (config : PaperConfig)

def feeRate : ℚ := config.takerFeeBps / 10000

def slipRate : ℚ := config.slippageBps / 10000

def paperExecutionBuyPrice (topAsk : ℚ) : ℚ := topAsk * (1 + config.slipRate)

def paperExecutionSellPrice (topBid : ℚ) : ℚ := max (1 / 10 ^ 12) (topBid * (1 - config.slipRate))

def baseQtyFromPaperBuy (allocUsd ask : ℚ) : ℚ := allocUsd * (1 - config.feeRate) / ask

def proceedsPaperSell (baseQty bid : ℚ) : ℚ := baseQty * bid * (1 - config.feeRate)

def paperRoundTripPnl (allocUsd entryAsk exitBid : ℚ) : ℚ :=
  config.proceedsPaperSell (config.baseQtyFromPaperBuy allocUsd entryAsk) exitBid - allocUsd

end PaperConfig

/-! ### Risk -/

/-- `RISK`. -/
def maxCapitalPerTrade : ℚ := 1 / 2

def maxTotalExposure : ℚ := 8 / 10

def maxOpenPositions : ℕ := 5

def maxDrawdown : ℚ := 2 / 10

/-- `1e-9`. -/
def tolerance : ℚ := 1 / 10 ^ 9

def checkDrawdownExceeded (currentEquity peakEquity : ℚ) : Bool :=
  if peakEquity ≤ 0 then false else maxDrawdown ≤ (peakEquity - currentEquity) / peakEquity

inductive RiskCheckReason where
  | ok
  | lowConfidence
  | maxPositions
  | maxExposure
  | maxTradeSize
  | drawdownHalt
deriving DecidableEq

def RiskCheckReason.text : RiskCheckReason → String
  | ok => "OK"
  | lowConfidence => "LOW_CONFIDENCE"
  | maxPositions => "MAX_POSITIONS"
  | maxExposure => "MAX_EXPOSURE"
  | maxTradeSize => "MAX_TRADE_SIZE"
  | drawdownHalt => "DRAWDOWN_HALT"

def checkSignalConfidence (confidence minRequired : ℚ) : Bool := minRequired ≤ confidence

structure NewBuy where
  confidence : ℚ
  minConfidenceRequired : ℚ
  proposedTradeFraction : ℚ
  openCount : ℕ
  openExposureFraction : ℚ
  drawdownHalted : Bool
  skipConfidenceCheck : Bool

def validateNewBuy (input : NewBuy) : RiskCheckReason :=
  if input.drawdownHalted then .drawdownHalt
  else if !input.skipConfidenceCheck &&
      !checkSignalConfidence input.confidence input.minConfidenceRequired then .lowConfidence
  else if maxOpenPositions ≤ input.openCount then .maxPositions
  else if maxCapitalPerTrade + tolerance < input.proposedTradeFraction then .maxTradeSize
  else if maxTotalExposure + tolerance <
      input.openExposureFraction + input.proposedTradeFraction then .maxExposure
  else .ok

/-! ### The gate -/

inductive SignalAction where
  | buy
  | sell
  | hold
deriving DecidableEq

/-- The fields of an `AISignalResult` that are acted on. -/
structure AISignalResult where
  action : SignalAction
  confidence : ℚ
  volatilityPct : Option ℚ

def execMinConfidence : ℚ := 1 / 10

def execVolatilityRejectPct : ℚ := 25

def execMaxLossTradeRate : ℚ := 9 / 10

def execMinTradesForLossRate : ℕ := 8

def execMinCooldownMs : ℕ := 5000

/-- What `fetchUserClosedTradeStats` counts of the trades it finds. -/
structure ClosedTradeStats where
  closedTrades : ℕ
  losingTrades : ℕ

def closedTradeStats (pnls : List ℚ) : ClosedTradeStats where
  closedTrades := pnls.length
  losingTrades := pnls.countP (· < 0)

/-- The fields of an `ExecutionContext` that decide about a paper trade. -/
structure ExecutionContext where
  proposedTradeFraction : ℚ
  openPositionCount : ℕ
  openExposureFraction : ℚ
  hasOpenPositionOnPair : Bool
  volatilityPct : Option ℚ
  drawdownHalted : Bool
  stats : ClosedTradeStats
  lastTradeAt : Option ℕ
  now : ℕ

namespace ExecutionContext

variable (ctx : ExecutionContext)

def volatilityOk (action : SignalAction) : Bool :=
  action ≠ .buy || ctx.volatilityPct.all (· ≤ execVolatilityRejectPct)

def lossRateOk : Bool :=
  if execMinTradesForLossRate ≤ ctx.stats.closedTrades then
    (ctx.stats.losingTrades : ℚ) / ctx.stats.closedTrades ≤ execMaxLossTradeRate + tolerance
  else true

def cooldownOk : Bool := ctx.lastTradeAt.all fun last => last + execMinCooldownMs ≤ ctx.now

def exposureOk (signal : AISignalResult) : RiskCheckReason :=
  if signal.action = .buy then
    validateNewBuy
      { confidence := signal.confidence
        minConfidenceRequired := execMinConfidence
        proposedTradeFraction := ctx.proposedTradeFraction
        openCount := ctx.openPositionCount
        openExposureFraction := ctx.openExposureFraction
        drawdownHalted := ctx.drawdownHalted
        skipConfidenceCheck := true }
  else .ok

end ExecutionContext

inductive Intent where
  | buy
  | sell
deriving DecidableEq

/-- `shouldExecuteTrade`, in paper mode: what to execute, or why not. -/
def shouldExecuteTrade (signal : AISignalResult) (ctx : ExecutionContext) :
    Except String Intent :=
  if signal.action = .hold then .error "HOLD"
  else if signal.confidence < execMinConfidence then .error "LOW_CONFIDENCE"
  else if !ctx.volatilityOk signal.action then .error "VOLATILITY_SPIKE"
  else if !ctx.lossRateOk then .error "LIFETIME_LOSS_RATE"
  else if !ctx.cooldownOk then .error "COOLDOWN"
  else match signal.action with
    | .buy =>
      if ctx.hasOpenPositionOnPair then .error "DUPLICATE_PAIR_POSITION"
      else if ctx.drawdownHalted then .error "DRAWDOWN_HALT"
      else if ctx.exposureOk signal ≠ .ok then
        .error ("EXPOSURE:" ++ (ctx.exposureOk signal).text)
      else .ok .buy
    | .sell =>
      if !ctx.hasOpenPositionOnPair then .error "NO_POSITION_TO_CLOSE" else .ok .sell
    | .hold => .error "UNKNOWN"

/-- A BUY that is let through leaves the estimated exposure under the limit, but for the
tolerance. -/
theorem exposure_le_of_validateNewBuy {input : NewBuy} (valid : validateNewBuy input = .ok) :
    input.openExposureFraction + input.proposedTradeFraction ≤ maxTotalExposure + tolerance := by
  unfold validateNewBuy at valid
  split_ifs at valid with halted unsure full large exposed
  exact not_lt.mp exposed

/-- A gate that answers has let its refusal pass. -/
theorem ite_error_eq_ok {Failure Value : Type} {refused : Prop} [Decidable refused]
    {failure : Failure} {rest : Except Failure Value} {value : Value} :
    (if refused then .error failure else rest) = .ok value ↔ ¬ refused ∧ rest = .ok value := by
  split
  · next holds => exact ⟨fun never => (nomatch never), fun passed => absurd holds passed.1⟩
  · next fails => exact ⟨fun answered => ⟨fails, answered⟩, And.right⟩

theorem exposure_le_of_approved {signal : AISignalResult} {ctx : ExecutionContext}
    (approved : shouldExecuteTrade signal ctx = .ok .buy) :
    ctx.openExposureFraction + ctx.proposedTradeFraction ≤ maxTotalExposure + tolerance := by
  unfold shouldExecuteTrade at approved
  simp only [ite_error_eq_ok] at approved
  obtain ⟨-, -, -, -, -, decided⟩ := approved
  split at decided
  · next acts =>
    simp only [ite_error_eq_ok] at decided
    obtain ⟨-, -, exposed, -⟩ := decided
    have valid := not_not.mp exposed
    unfold ExecutionContext.exposureOk at valid
    rw [if_pos acts] at valid
    exact exposure_le_of_validateNewBuy valid
  · simp only [ite_error_eq_ok] at decided
    cases decided.2
  · cases decided

/-! ### Drawdown -/

theorem checkDrawdownExceeded_iff {currentEquity peakEquity : ℚ} :
    checkDrawdownExceeded currentEquity peakEquity = true ↔
      0 < peakEquity ∧ currentEquity ≤ (1 - maxDrawdown) * peakEquity := by
  unfold checkDrawdownExceeded
  split
  · next low => exact ⟨fun never => (Bool.false_ne_true never).elim,
      fun high => absurd high.1 (not_lt.mpr low)⟩
  · next high =>
    have positive := not_le.mp high
    rw [decide_eq_true_eq, le_div_iff₀ positive, and_iff_right positive]
    constructor
    · intro bound
      linarith
    · intro bound
      linarith

/-- A value that is a new peak is judged like one that is compared with the peak before it: it
has not fallen. -/
theorem checkDrawdownExceeded_max (currentEquity peakEquity : ℚ) :
    checkDrawdownExceeded currentEquity (max peakEquity currentEquity) =
      checkDrawdownExceeded currentEquity peakEquity := by
  obtain lower | higher := le_total currentEquity peakEquity
  · rw [max_eq_left lower]
  · rw [max_eq_right higher, Bool.eq_iff_iff, checkDrawdownExceeded_iff,
      checkDrawdownExceeded_iff]
    unfold maxDrawdown
    constructor
    · rintro ⟨positive, fallen⟩
      exact ⟨by linarith, by linarith⟩
    · rintro ⟨positive, fallen⟩
      exact ⟨by linarith, by linarith⟩

end GdslExchange.Paper
