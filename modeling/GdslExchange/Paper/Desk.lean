/-
This file models what the paper bot of one user talks to: the rows of the trades
and of the portfolio, the bots in memory, the market, and the log.

A bot keeps its session peak, its halt and its last execution in memory, and every
call that holds it reads and writes them there, also after it has been stopped.
-/

import GdslExchange.Async.Delivery
import GdslExchange.Async.Program
import GdslExchange.Paper.Risk

namespace GdslExchange.Paper

open Async (Delivery Stored)

/-! ### State -/

inductive TradeStatus where
  | opened
  | closed
deriving DecidableEq

/-- A row of the trades of the user. -/
structure PaperTrade where
  pair : String
  entryPrice : ℚ
  exitPrice : Option ℚ
  pnl : Option ℚ
  allocationUsd : Option ℚ
  status : TradeStatus

structure Portfolio where
  totalValue : ℚ
  pnl : ℚ
deriving DecidableEq

/-- The fields of a `BotInstance` that do not change; `start` keeps the size within bounds. -/
structure BotSettings where
  pairs : List String
  pair : String
  tradeSizePct : ℚ
  le_tradeSizePct : 10 ≤ tradeSizePct
  tradeSizePct_le : tradeSizePct ≤ 100
deriving DecidableEq

/-- A `BotInstance`, and whether its interval is set. -/
structure BotInstance where
  settings : BotSettings
  sessionPeakEquity : ℚ
  drawdownHalted : Bool
  lastExecutionAt : Option ℕ
  ticking : Bool
deriving DecidableEq

/-- The rows of the user, every bot there has been, and the one that `bots` holds. -/
structure Desk where
  trades : List PaperTrade
  portfolio : Option Portfolio
  bots : List BotInstance
  running : Option ℕ

/-! ### Operations -/

/-- A top of book is only reported with positive prices. -/
structure BookTicker where
  bid : ℚ
  ask : ℚ
  bid_pos : 0 < bid
  ask_pos : 0 < ask

def BookTicker.mid (book : BookTicker) : ℚ := (book.bid + book.ask) / 2

/-- Which code opens a position, and with which settings; the store does not see it. -/
inductive Opening where
  | probe
  | tick (settings : BotSettings)

inductive TradingLogKind where
  | signal
  | exec
  | risk
  | system
  | filter
deriving DecidableEq

/-- The memory of a bot that an execution is decided on, and the time. -/
structure BotReading where
  drawdownHalted : Bool
  lastExecutionAt : Option ℕ
  now : ℕ

inductive Op where
  | isRunning
  | installBot (settings : BotSettings) (portfolio : Portfolio)
  | clearTimer
  | removeBot
  | fire (bot : ℕ)
  | observe (bot : ℕ) (currentEquity : ℚ)
  | readBot (bot : ℕ)
  | stampExecution (bot : ℕ)
  | findPortfolio
  | createPortfolio
  | creditPortfolio (trade : ℕ) (pnl : ℚ)
  | moveFunds (amount : ℚ)
  | findOpenTrades
  | findOpenTradesOf (pair : String)
  | findOpenTrade (trade : ℕ)
  | countOpenTrades
  | findClosedPnls
  | createTrade (opening : Opening) (data : PaperTrade)
  | closeTrade (trade : ℕ) (exitPrice pnl : ℚ)
  | findActiveSession
  | countTradesSince (startedAt : ℕ)
  | computeAISignal (symbol : String)
  | fetchBookTicker (symbol : String)
  | appendTradingLog (kind : TradingLogKind) (message : String)
  | currentTime

@[reducible] def Result : Op → Type
  | .isRunning => Bool
  | .installBot _ _ => ℕ
  | .clearTimer => Option ℕ
  | .removeBot => Unit
  | .fire _ => Option BotSettings
  | .observe _ _ => Bool
  | .readBot _ => BotReading
  | .stampExecution _ => Unit
  | .findPortfolio => Option Portfolio
  | .createPortfolio => Portfolio
  | .creditPortfolio _ _ => Unit
  | .moveFunds _ => Unit
  | .findOpenTrades => List (Stored PaperTrade)
  | .findOpenTradesOf _ => List (Stored PaperTrade)
  | .findOpenTrade _ => Option (Stored PaperTrade)
  | .countOpenTrades => ℕ
  | .findClosedPnls => List ℚ
  | .createTrade _ _ => ℕ
  | .closeTrade _ _ _ => Unit
  | .findActiveSession => Option ℕ
  | .countTradesSince _ => ℕ
  | .computeAISignal _ => Option AISignalResult
  | .fetchBookTicker _ => Option BookTicker
  | .appendTradingLog _ _ => Unit
  | .currentTime => ℕ

/-- Memory is read and written at once, the clock is read at a time, the rows are a store, and
everything else answers or fails. -/
@[reducible] def Fate : Op → Type
  | .isRunning => Unit
  | .installBot _ _ => Unit
  | .clearTimer => Unit
  | .removeBot => Unit
  | .fire _ => Unit
  | .observe _ _ => Unit
  | .readBot _ => ℕ
  | .stampExecution _ => ℕ
  | .currentTime => ℕ
  | .moveFunds _ => Unit
  | .findPortfolio => Delivery
  | .createPortfolio => Delivery
  | .creditPortfolio _ _ => Delivery
  | .findOpenTrades => Delivery
  | .findOpenTradesOf _ => Delivery
  | .findOpenTrade _ => Delivery
  | .countOpenTrades => Delivery
  | .findClosedPnls => Delivery
  | .createTrade _ _ => Delivery
  | .closeTrade _ _ _ => Delivery
  | op => Except String (Result op)

/-! ### Effects -/

/-- The bot that `start` puts in memory. -/
def newBot (settings : BotSettings) (portfolio : Portfolio) : BotInstance where
  settings := settings
  sessionPeakEquity := portfolio.totalValue + portfolio.pnl
  drawdownHalted := false
  lastExecutionAt := none
  ticking := true

/-- The peak is raised, and the bot halts if its equity has fallen too far below it. -/
def BotInstance.observed (bot : BotInstance) (currentEquity : ℚ) : BotInstance :=
  let peak := max bot.sessionPeakEquity currentEquity
  { bot with
    sessionPeakEquity := peak
    drawdownHalted := bot.drawdownHalted || checkDrawdownExceeded currentEquity peak }

def PaperTrade.isOpen (trade : PaperTrade) : Bool := trade.status = .opened

def PaperTrade.close (trade : PaperTrade) (exitPrice pnl : ℚ) : PaperTrade :=
  { trade with exitPrice := some exitPrice, pnl := some pnl, status := .closed }

namespace Desk

variable (desk : Desk)

def pnl : ℚ := (desk.portfolio.map Portfolio.pnl).getD 0

def totalValue : ℚ := (desk.portfolio.map Portfolio.totalValue).getD 0

/-- The OPEN trades, oldest first. -/
def openTrades : List (Stored PaperTrade) :=
  (desk.trades.zipIdx.map fun entry => ⟨entry.2, entry.1⟩).filter fun stored => stored.row.isOpen

/-- The profits of the CLOSED trades that have one. -/
def closedPnls : List ℚ :=
  (desk.trades.filter fun trade => !trade.isOpen).filterMap PaperTrade.pnl

def onBot (bot : ℕ) (change : BotInstance → BotInstance) : Desk :=
  { desk with bots := desk.bots.modify bot change }

def credit (pnl : ℚ) : Desk :=
  { desk with portfolio := desk.portfolio.map fun portfolio =>
      ⟨portfolio.totalValue + pnl, portfolio.pnl + pnl⟩ }

def move (amount : ℚ) : Desk :=
  { desk with portfolio := desk.portfolio.map fun portfolio =>
      ⟨portfolio.totalValue + amount, portfolio.pnl⟩ }

def closing (trade : ℕ) (exitPrice pnl : ℚ) : Desk :=
  { desk with trades := desk.trades.modify trade fun row => row.close exitPrice pnl }

end Desk

def notFound : String := "Record to update not found."

/-- What is done with a bot, by a call that holds it. -/
def withBot {Answer : Type} (desk : Desk) (bot : ℕ) (change : BotInstance → BotInstance)
    (answer : BotInstance → Answer) : Desk × Except String Answer :=
  match desk.bots[bot]? with
  | some found => (desk.onBot bot change, .ok (answer found))
  | none => (desk, .error "no such bot")

def perform : (op : Op) → Fate op → Desk → Desk × Except String (Result op)
  | .isRunning, _, desk => (desk, .ok desk.running.isSome)
  | .installBot settings portfolio, _, desk =>
    ({ desk with
        bots := desk.bots ++ [newBot settings portfolio]
        running := some desk.bots.length }, .ok desk.bots.length)
  | .clearTimer, _, desk =>
    (desk.running.elim desk fun bot => desk.onBot bot fun found => { found with ticking := false },
      .ok desk.running)
  | .removeBot, _, desk => ({ desk with running := none }, .ok ())
  | .fire bot, _, desk =>
    withBot desk bot id fun found => if found.ticking then some found.settings else none
  | .observe bot currentEquity, _, desk =>
    withBot desk bot (·.observed currentEquity) fun found =>
      !found.drawdownHalted && (found.observed currentEquity).drawdownHalted
  | .readBot bot, now, desk =>
    withBot desk bot id fun found => ⟨found.drawdownHalted, found.lastExecutionAt, now⟩
  | .stampExecution bot, now, desk =>
    withBot desk bot (fun found => { found with lastExecutionAt := some now }) fun _ => ()
  | .findPortfolio, delivery, desk => delivery.read desk desk.portfolio
  | .createPortfolio, delivery, desk =>
    if desk.portfolio.isSome then (desk, .error "Unique constraint failed on the fields: (userId)")
    else delivery.write desk { desk with portfolio := some ⟨0, 0⟩ } ⟨0, 0⟩
  | .creditPortfolio _ pnl, delivery, desk =>
    if desk.portfolio.isSome then delivery.write desk (desk.credit pnl) ()
    else (desk, .error notFound)
  | .moveFunds amount, _, desk =>
    if desk.portfolio.isSome then (desk.move amount, .ok ()) else (desk, .error notFound)
  | .findOpenTrades, delivery, desk => delivery.read desk desk.openTrades
  | .findOpenTradesOf pair, delivery, desk =>
    delivery.read desk (desk.openTrades.filter fun stored => stored.row.pair = pair)
  | .findOpenTrade trade, delivery, desk =>
    delivery.read desk (desk.openTrades.find? fun stored => stored.id = trade)
  | .countOpenTrades, delivery, desk => delivery.read desk desk.openTrades.length
  | .findClosedPnls, delivery, desk => delivery.read desk desk.closedPnls
  | .createTrade _ data, delivery, desk =>
    delivery.write desk { desk with trades := desk.trades ++ [data] } desk.trades.length
  | .closeTrade trade exitPrice pnl, delivery, desk =>
    if trade < desk.trades.length then delivery.write desk (desk.closing trade exitPrice pnl) ()
    else (desk, .error notFound)
  | .currentTime, now, desk => (desk, .ok now)
  | .findActiveSession, answer, desk => (desk, answer)
  | .countTradesSince _, answer, desk => (desk, answer)
  | .computeAISignal _, answer, desk => (desk, answer)
  | .fetchBookTicker _, answer, desk => (desk, answer)
  | .appendTradingLog _ _, answer, desk => (desk, answer)

/-- The outside world of the paper bot. -/
abbrev paper : Async.Service where
  State := Desk
  Op := Op
  Result := Result
  Failure := String
  Fate := Fate
  perform := perform

abbrev Call (Value : Type) := Async.Program paper Value

def await (op : Op) : Call (Result op) := @Async.Program.perform paper op

/-- A world that answers everything: with a signal, a top of book and a time. -/
def answering (signal : Option AISignalResult) (book : Option BookTicker) (now : ℕ) :
    (op : Op) → Fate op
  | .isRunning => ()
  | .installBot _ _ => ()
  | .clearTimer => ()
  | .removeBot => ()
  | .fire _ => ()
  | .observe _ _ => ()
  | .readBot _ => now
  | .stampExecution _ => now
  | .currentTime => now
  | .moveFunds _ => ()
  | .findPortfolio => .answered
  | .createPortfolio => .answered
  | .creditPortfolio _ _ => .answered
  | .findOpenTrades => .answered
  | .findOpenTradesOf _ => .answered
  | .findOpenTrade _ => .answered
  | .countOpenTrades => .answered
  | .findClosedPnls => .answered
  | .createTrade _ _ => .answered
  | .closeTrade _ _ _ => .answered
  | .findActiveSession => .ok none
  | .countTradesSince _ => .ok 0
  | .computeAISignal _ => .ok signal
  | .fetchBookTicker _ => .ok book
  | .appendTradingLog _ _ => .ok ()

end GdslExchange.Paper
