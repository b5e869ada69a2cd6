/-
This file models the gate that every execution passes, for all modes and with all that it reports,
and says what an exit depends on.

The brakes on entries are asked about BUYs alone, except one: the rate of losing trades refuses
SELLs as well. So a position can be closed exactly as long as that rate is in order.
-/

import GdslExchange.Paper.Risk

namespace GdslExchange.Execution

open Paper (Intent PaperConfig RiskCheckReason SignalAction execMaxLossTradeRate execMinConfidence
  execMinTradesForLossRate execVolatilityRejectPct tolerance validateNewBuy)

/-! ### Signals and contexts -/

def execMinRiskReward : ℚ := 2

def execStopLossPct : ℚ := 125 / 10000

def execTakeProfitPct : ℚ := 25 / 1000

def execMaxGasToNotional : ℚ := 2 / 100

structure ExecutionSignal where
  action : SignalAction
  confidence : ℚ
  token : String
  price : ℚ

inductive ExecutionMode where
  | paper
  | cex
  | dex
deriving DecidableEq

/-- The fields of an `ExecutionContext` that are about a new position. -/
structure EntryInputs where
  proposedTradeFraction : ℚ
  openPositionCount : ℕ
  openExposureFraction : ℚ
  volatilityPct : Option ℚ
  drawdownHalted : Bool
  closedTrades : ℕ
  losingTrades : ℕ
  winningTrades : ℕ

/-- The fields of an `ExecutionContext` that the gate reads. -/
structure ExecutionContext extends EntryInputs where
  mode : ExecutionMode
  proposedNotionalUsd : ℚ
  hasOpenPositionOnPair : Bool
  minCooldownMs : ℤ
  lastTradeAt : Option ℤ
  estimatedGasUsd : ℚ

/-- The same context with other entry inputs. -/
def ExecutionContext.withEntry (ctx : ExecutionContext) (entry : EntryInputs) : ExecutionContext :=
  { ctx with toEntryInputs := entry }

/-! ### Evaluation -/

structure FeeEstimate where
  roundTripCostFraction : ℚ
  estimatedFeesUsd : ℚ
  takerFeeBps : ℕ
  slippageBps : ℕ

structure RiskRewardEstimate where
  riskFraction : ℚ
  rewardFraction : ℚ
  ratio : ℚ
  meetsMinRatio : Bool

structure SignalEvaluation where
  signal : ExecutionSignal
  confidenceOk : Bool
  volatilityOk : Bool
  lossRateOk : Bool
  cooldownOk : Bool
  exposureOk : RiskCheckReason
  fees : FeeEstimate
  riskReward : RiskRewardEstimate
  expectedNetAtTpUsd : ℚ
  netPositiveVsCosts : Bool

def estimateFees (config : PaperConfig) (ctx : ExecutionContext) : FeeEstimate :=
  let leg : ℚ := (config.takerFeeBps + config.slippageBps) / 10000
  let roundTripCostFraction := min (5 / 10) (leg * 2)
  { roundTripCostFraction := roundTripCostFraction
    estimatedFeesUsd := ctx.proposedNotionalUsd * roundTripCostFraction
    takerFeeBps := config.takerFeeBps
    slippageBps := config.slippageBps }

def calculateRiskReward (signal : ExecutionSignal) (ctx : ExecutionContext) :
    RiskRewardEstimate :=
  let notional := ctx.proposedNotionalUsd
  let ratio :=
    if signal.action ≠ .buy ∨ notional ≤ 0 then execTakeProfitPct / execStopLossPct
    else
      let riskUsd := notional * execStopLossPct
      let rewardUsd := notional * execTakeProfitPct
      if 0 < riskUsd then rewardUsd / riskUsd else 0
  { riskFraction := execStopLossPct
    rewardFraction := execTakeProfitPct
    ratio := ratio
    meetsMinRatio := execMinRiskReward - tolerance ≤ ratio }

def volatilityOk (signal : ExecutionSignal) (entry : EntryInputs) : Bool :=
  signal.action ≠ .buy || entry.volatilityPct.all (· ≤ execVolatilityRejectPct)

def EntryInputs.lossRateOk (entry : EntryInputs) : Bool :=
  if execMinTradesForLossRate ≤ entry.closedTrades then
    (entry.losingTrades : ℚ) / entry.closedTrades ≤ execMaxLossTradeRate + tolerance
  else true

def ExecutionContext.cooldownOk (ctx : ExecutionContext) (now : ℤ) : Bool :=
  ctx.lastTradeAt.all fun last => ctx.minCooldownMs ≤ now - last

def exposureOk (signal : ExecutionSignal) (entry : EntryInputs) : RiskCheckReason :=
  if signal.action = .buy then
    validateNewBuy
      { confidence := signal.confidence
        minConfidenceRequired := execMinConfidence
        proposedTradeFraction := entry.proposedTradeFraction
        openCount := entry.openPositionCount
        openExposureFraction := entry.openExposureFraction
        drawdownHalted := entry.drawdownHalted
        skipConfidenceCheck := true }
  else .ok

def evaluateSignal (config : PaperConfig) (now : ℤ) (signal : ExecutionSignal)
    (ctx : ExecutionContext) : SignalEvaluation :=
  let fees := estimateFees config ctx
  let expectedNetAtTpUsd := ctx.proposedNotionalUsd * execTakeProfitPct - fees.estimatedFeesUsd
  { signal := signal
    confidenceOk := execMinConfidence ≤ signal.confidence
    volatilityOk := volatilityOk signal ctx.toEntryInputs
    lossRateOk := ctx.lossRateOk
    cooldownOk := ctx.cooldownOk now
    exposureOk := exposureOk signal ctx.toEntryInputs
    fees := fees
    riskReward := calculateRiskReward signal ctx
    expectedNetAtTpUsd := expectedNetAtTpUsd
    netPositiveVsCosts := 0 < expectedNetAtTpUsd }

/-! ### The gate -/

inductive ShouldExecuteResult where
  | refused (reason : String) (evaluation : SignalEvaluation)
  | approved (intent : Intent) (signal : ExecutionSignal) (evaluation : SignalEvaluation)

/-- What is executed, or why not. -/
def ShouldExecuteResult.verdict : ShouldExecuteResult → Except String Intent
  | refused reason _ => .error reason
  | approved intent _ _ => .ok intent

/-- Gas beyond what a DEX trade of the size may cost. -/
def ExecutionContext.gasTooHigh (ctx : ExecutionContext) : Bool :=
  ctx.mode = .dex && 0 < ctx.proposedNotionalUsd &&
    execMaxGasToNotional < ctx.estimatedGasUsd / ctx.proposedNotionalUsd

def shouldExecuteTrade (config : PaperConfig) (now : ℤ) (signal : ExecutionSignal)
    (ctx : ExecutionContext) : ShouldExecuteResult :=
  let evaluation := evaluateSignal config now signal ctx
  if signal.action = .hold then .refused "HOLD" evaluation
  else if signal.confidence < execMinConfidence then .refused "LOW_CONFIDENCE" evaluation
  else if !evaluation.volatilityOk then .refused "VOLATILITY_SPIKE" evaluation
  else if !evaluation.lossRateOk then .refused "LIFETIME_LOSS_RATE" evaluation
  else if !evaluation.cooldownOk then .refused "COOLDOWN" evaluation
  else if ctx.gasTooHigh then .refused "GAS_TOO_HIGH_VS_SIZE" evaluation
  else match signal.action with
    | .buy =>
      if ctx.hasOpenPositionOnPair then .refused "DUPLICATE_PAIR_POSITION" evaluation
      else if ctx.drawdownHalted then .refused "DRAWDOWN_HALT" evaluation
      else if evaluation.exposureOk ≠ .ok then
        .refused ("EXPOSURE:" ++ evaluation.exposureOk.text) evaluation
      else .approved .buy signal evaluation
    | .sell =>
      if !ctx.hasOpenPositionOnPair then .refused "NO_POSITION_TO_CLOSE" evaluation
      else .approved .sell signal evaluation
    | .hold => .refused "UNKNOWN" evaluation

theorem gasTooHigh_eq_false {ctx : ExecutionContext} (notDex : ctx.mode ≠ .dex) :
    ctx.gasTooHigh = false := by
  unfold ExecutionContext.gasTooHigh
  rw [decide_eq_false notDex]
  rfl

/-! ### The gate of the bots -/

section Bots

variable (config : PaperConfig) (now : ℕ) (signal : ExecutionSignal) (ctx : ExecutionContext)

/-- What the bots' model of the gate reads of a signal. -/
def ExecutionSignal.forBot (signal : ExecutionSignal) (ctx : ExecutionContext) :
    Paper.AISignalResult where
  action := signal.action
  confidence := signal.confidence
  volatilityPct := ctx.volatilityPct

/-- What the bots' model of the gate reads of a context. -/
def ExecutionContext.forBot (ctx : ExecutionContext) (now : ℕ) (lastTradeAt : Option ℕ) :
    Paper.ExecutionContext where
  proposedTradeFraction := ctx.proposedTradeFraction
  openPositionCount := ctx.openPositionCount
  openExposureFraction := ctx.openExposureFraction
  hasOpenPositionOnPair := ctx.hasOpenPositionOnPair
  volatilityPct := ctx.volatilityPct
  drawdownHalted := ctx.drawdownHalted
  stats := ⟨ctx.closedTrades, ctx.losingTrades⟩
  lastTradeAt := lastTradeAt
  now := now

def sol : ExecutionSignal := ⟨.buy, 1, "SOL", 1⟩

def flat : ExecutionContext := ⟨⟨0, 0, 0, none, false, 0, 0, 0⟩, .paper, 1, false, 5000, none, 0⟩

end Bots

/-! ### Exits -/

section Exits

variable (config : PaperConfig) {now : ℤ} {signal : ExecutionSignal} {ctx : ExecutionContext}

/-- A SELL of sufficient confidence, of an open position and outside the cooldown. -/
structure Exits (now : ℤ) (signal : ExecutionSignal) (ctx : ExecutionContext) : Prop where
  sells : signal.action = .sell
  confident : execMinConfidence ≤ signal.confidence
  cooled : ctx.cooldownOk now
  held : ctx.hasOpenPositionOnPair

theorem Exits.verdict (exits : Exits now signal ctx) (entry : EntryInputs) :
    (shouldExecuteTrade config now signal (ctx.withEntry entry)).verdict =
      if entry.lossRateOk then
        if ctx.gasTooHigh then .error "GAS_TOO_HIGH_VS_SIZE" else .ok .sell
      else .error "LIFETIME_LOSS_RATE" := by
  have calm : volatilityOk signal (ctx.withEntry entry).toEntryInputs = true := by
    unfold volatilityOk
    rw [exits.sells]
    rfl
  have cooled : (ctx.withEntry entry).cooldownOk now = true := exits.cooled
  have held : (ctx.withEntry entry).hasOpenPositionOnPair = true := exits.held
  have rate : (ctx.withEntry entry).lossRateOk = entry.lossRateOk := rfl
  have gas : (ctx.withEntry entry).gasTooHigh = ctx.gasTooHigh := rfl
  unfold shouldExecuteTrade
  dsimp only [evaluateSignal]
  rw [exits.sells, if_neg SignalAction.noConfusion, if_neg (not_lt.mpr exits.confident), calm,
    cooled, held, rate, gas]
  rcases entry.lossRateOk with _ | _
  · rfl
  · rcases isGas : ctx.gasTooHigh with _ | _
    · rfl
    · rfl

/-- With two sets of entry inputs an exit has the same verdict, and in paper and CEX mode passes,
if and only if the rate of losing trades is in order with both or, in DEX mode, with neither. -/
theorem exit_unbraked_iff (exits : Exits now signal ctx) (first second : EntryInputs) :
    ((shouldExecuteTrade config now signal (ctx.withEntry first)).verdict =
        (shouldExecuteTrade config now signal (ctx.withEntry second)).verdict ∧
      (ctx.mode ≠ .dex →
        (shouldExecuteTrade config now signal (ctx.withEntry first)).verdict = .ok .sell)) ↔
      first.lossRateOk = second.lossRateOk ∧ (ctx.mode ≠ .dex → first.lossRateOk) := by
  have passes (notDex : ctx.mode ≠ .dex) :
      (if ctx.gasTooHigh then .error "GAS_TOO_HIGH_VS_SIZE" else .ok Intent.sell) =
        (.ok .sell : Except String Intent) := by
    rw [gasTooHigh_eq_false notDex]
    rfl
  have refusals : (if ctx.gasTooHigh then .error "GAS_TOO_HIGH_VS_SIZE" else .ok Intent.sell) ≠
      (.error "LIFETIME_LOSS_RATE" : Except String Intent) := by
    split_ifs
    · decide
    · intro same
      cases same
  rw [exits.verdict config first, exits.verdict config second]
  rcases first.lossRateOk with _ | _ <;> rcases second.lossRateOk with _ | _
  · refine and_congr (iff_of_true rfl rfl) (forall_congr' fun _ => iff_of_false ?_ ?_)
    · rw [if_neg Bool.false_ne_true]
      intro same
      cases same
    · exact Bool.false_ne_true
  · refine iff_of_false (fun both => refusals both.1.symm) fun both => ?_
    exact Bool.false_ne_true both.1
  · refine iff_of_false (fun both => refusals both.1) fun both => ?_
    exact Bool.false_ne_true both.1.symm
  · exact and_congr (iff_of_true rfl rfl)
      (forall_congr' fun notDex => iff_of_true (passes notDex) rfl)

end Exits

/-- A position on CEX, sold at full confidence. -/
def sold : ExecutionSignal where
  action := .sell
  confidence := 1
  token := "BTCUSDT"
  price := 100

/-- So many closed trades, of which so many lost. -/
def streak (closed losing : ℕ) : EntryInputs where
  proposedTradeFraction := 0
  openPositionCount := 1
  openExposureFraction := 0
  volatilityPct := none
  drawdownHalted := false
  closedTrades := closed
  losingTrades := losing
  winningTrades := closed - losing

def holding : ExecutionContext where
  toEntryInputs := streak 0 0
  mode := .cex
  proposedNotionalUsd := 100
  hasOpenPositionOnPair := true
  minCooldownMs := 5000
  lastTradeAt := none
  estimatedGasUsd := 0

theorem exits_sold : Exits 0 sold holding where
  sells := rfl
  confident := by norm_num [sold, execMinConfidence]
  cooled := rfl
  held := rfl

/-- Nine losses in ten trades leave the exit open. -/
theorem exit_unbraked_nine :
    (shouldExecuteTrade .default 0 sold (holding.withEntry (streak 10 9))).verdict =
        (shouldExecuteTrade .default 0 sold (holding.withEntry (streak 0 0))).verdict ∧
      (holding.mode ≠ .dex →
        (shouldExecuteTrade .default 0 sold (holding.withEntry (streak 10 9))).verdict =
          .ok .sell) :=
  (exit_unbraked_iff .default exits_sold (streak 10 9) (streak 0 0)).mpr (by decide +kernel)

/-- Ten losses in ten trades close it. -/
theorem not_exit_unbraked :
    Exits 0 sold holding ∧
      (shouldExecuteTrade .default 0 sold (holding.withEntry (streak 10 10))).verdict =
        .error "LIFETIME_LOSS_RATE" ∧
      (shouldExecuteTrade .default 0 sold (holding.withEntry (streak 0 0))).verdict =
        .ok .sell :=
  ⟨exits_sold, by decide +kernel, by decide +kernel⟩

end GdslExchange.Execution
