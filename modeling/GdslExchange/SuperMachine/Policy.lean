/-
This file models what the meta-policy computes from the market: the raw action
that the models and the order book make, and the Kelly size of a BUY from the
record of closed trades.

The probability that the reinforcement learner gives to a BUY comes out of a
softmax; it is read as it comes out.
-/

import Mathlib.Algebra.Order.Field.Rat
import Mathlib.Tactic.Linarith
import Mathlib.Tactic.NormNum

namespace GdslExchange.SuperMachine

/-! ### The raw action -/

inductive Regime where
  | trending
  | ranging
  | transition
deriving DecidableEq

/-- What `decide` reads of the market and of the models. -/
structure MarketReading where
  bayesPUp : ℚ
  rlBuyProb : ℚ
  obi : Option ℚ
  regime : Regime

inductive MetaAction where
  | buy
  | sell
  | hold
deriving DecidableEq

def entryThreshold : Regime → ℚ
  | .trending => 50 / 100
  | .transition => 51 / 100
  | .ranging => 52 / 100

namespace MarketReading

variable (reading : MarketReading)

/-- The imbalance of the order book, mapped from [-1, 1] to [0, 1]. -/
def obiNorm : ℚ := (reading.obi.map fun obi => (obi + 1) / 2).getD (5 / 10)

/-- Weighted: the ensemble one half, the learner three tenths, the order book the rest. -/
def pUp : ℚ :=
  5 / 10 * reading.bayesPUp + 3 / 10 * reading.rlBuyProb + 2 / 10 * reading.obiNorm

def obiBlocked : Bool := reading.obi.any (· < -(55 / 100))

/-- The action before the timeframes are compared. -/
def rawAction : MetaAction :=
  if reading.pUp > entryThreshold reading.regime ∧ ¬ reading.obiBlocked then .buy
  else if reading.pUp < 1 - entryThreshold reading.regime then .sell
  else .hold

end MarketReading

/-! ### The Kelly size -/

def minTradesForKelly : ℕ := 10

/-- Average win over average loss, with a default where there is too little to average. -/
def estimateWinLossRatio (pnls : List ℚ) : ℚ :=
  if pnls.length < minTradesForKelly then 15 / 10
  else
    let wins := pnls.filter (0 < ·)
    let losses := (pnls.filter (· < 0)).map abs
    if wins.length = 0 ∨ losses.length = 0 then 1
    else
      let avgWin := wins.sum / wins.length
      let avgLoss := losses.sum / losses.length
      if avgLoss = 0 then 15 / 10 else avgWin / avgLoss

def fractionalKelly : ℚ := 25 / 100

/-- The fraction of the equity to allocate: at most a quarter of it. -/
def kellyFraction (pUp : ℚ) (pnls : List ℚ) : ℚ :=
  let q := 1 - pUp
  let b := estimateWinLossRatio pnls
  let fullKelly := (pUp * b - q) / b
  max 0 (min (fractionalKelly * fullKelly) (25 / 100))

def minOrder : ℚ := 5 / 10

/-- The size of an order, or 0 where it would be below the minimum. -/
def computeOrderSize (pUp equity : ℚ) (pnls : List ℚ) : ℚ :=
  let rawSize := equity * kellyFraction pUp pnls
  if rawSize < minOrder then 0 else min rawSize (equity * (5 / 10))

/-- The equity that the risk agent sizes for where it is given none. -/
def defaultEquity : ℚ := 1000

end GdslExchange.SuperMachine
