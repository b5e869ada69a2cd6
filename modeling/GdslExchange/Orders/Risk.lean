/-
This file models the risk check of the order service, which `placeOrder` runs
before it normalises and submits an order.
-/

import GdslExchange.Orders.Desk

namespace GdslExchange.Orders

open Async.Program (done failed throwIf orThrow forEach)
open Numeric

structure RiskCheckInput where
  userId : String
  symbol : String
  quantity : ℚ
  price : ℚ
  notionalUsd : Option ℚ

inductive RiskVerdict where
  | allowed
  | denied (reason : String)
deriving DecidableEq

def dayMs : ℕ := 86400000

/-- `start.setUTCHours(0, 0, 0, 0)`. -/
def startOfUtcDay (time : ℕ) : ℕ := time - time % dayMs

/-- The sum of the stored pnl of some trades, absent values counting as nothing. -/
def totalPnl (trades : List Trade) : ℚ := (trades.map fun trade => trade.pnl.getD 0).sum

def RiskCheckInput.notional (input : RiskCheckInput) : ℚ :=
  input.notionalUsd.getD (input.quantity * input.price)

/-- Record a refusal and return it. -/
def deny (event : RiskEvent) : Call RiskVerdict := do
  await (.createRiskEvent event)
  return .denied event.message

def checkDailyLoss (input : RiskCheckInput) : Option ℚ → Call RiskVerdict
  | none => return .allowed
  | some maxDailyLoss => do
    let time ← await .now
    let todayTrades ← await
      (.findClosedTrades input.userId (startOfUtcDay time))
    let dailyPnl := totalPnl todayTrades
    if dailyPnl ≤ -|maxDailyLoss| then
      deny { userId := input.userId, kind := .dailyLossLimit, severity := .critical,
             message := "Daily loss limit reached", dailyPnl := some dailyPnl }
    else return .allowed

/-- `checkRisk` of the order service. -/
def checkRisk (input : RiskCheckInput) : Call RiskVerdict := do
  let activeRule ← await (.findLatestRiskRule input.userId)
  match activeRule with
  | none => return .allowed
  | some rule =>
    match rule.maxOrderNotional with
    | none => checkDailyLoss input rule.maxDailyLoss
    | some maxOrderNotional =>
      if input.notional > maxOrderNotional then
        deny { userId := input.userId, kind := .orderRejected, severity := .warn,
               message := s!"Order notional {(toFixed 2 input.notional).render} exceeds max {(toFixed 2 maxOrderNotional).render}",
               symbol := some input.symbol, notional := some input.notional }
      else checkDailyLoss input rule.maxDailyLoss

end GdslExchange.Orders
