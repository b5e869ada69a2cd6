/-
This file models the advanced bot: its start, the handler that it hangs on the closed bars,
its ticks, which decide with the meta-policy, and its stop.

The handler takes a symbol and an interval; the candle service emits one record of both. A
tick that an event starts is not waited for, so ticks of one bot may overlap.
-/

import GdslExchange.Market.Klines
import GdslExchange.Numeric.Fixed
import GdslExchange.Paper.Risk

namespace GdslExchange.Advanced

open Async (Delivery)
open Async.Program
open Market (Interval)
open Numeric
open Paper (PaperConfig)

/-! ### Bars -/

structure Bar where
  high : ℚ
  low : ℚ
  close : ℚ

/-- The true ranges of all bars but the first. -/
def trueRanges : List Bar → List ℚ
  | previous :: bar :: rest =>
    max (max (bar.high - bar.low) |bar.high - previous.close|) |bar.low - previous.close| ::
      trueRanges (bar :: rest)
  | _ => []

/-- `last(atr(highs, lows, closes, period))`, of more than `period` bars. -/
def lastAtr (period : ℕ) (bars : List Bar) : ℚ :=
  let ranges := trueRanges bars
  (ranges.drop period).foldl (fun prev range => (prev * (period - 1) + range) / period)
    ((ranges.take period).sum / period)

/-! ### Bots -/

inductive Mode where
  | paper
  | live
deriving DecidableEq

/-- `AdvancedBotConfig`. -/
structure Config where
  userId : String
  strategyId : String
  symbol : String
  pair : String
  mode : Mode

inductive Position where
  | none
  | long
deriving DecidableEq

/-- A `BotState`, whether `bots` has it, and whether its handler is hung on the closed bars. -/
structure Bot where
  config : Config
  running : Bool
  listening : Bool
  position : Position
  entryPrice : ℚ
  stopPrice : ℚ
  takeProfitPrice : ℚ
  trailingStop : ℚ
  currentTradeId : Option ℕ
  barsInPosition : ℕ
  equity : ℚ

/-- The bot that `start` makes. -/
def newBot (config : Config) (initialEquity : ℚ) : Bot where
  config := config
  running := true
  listening := true
  position := .none
  entryPrice := 0
  stopPrice := 0
  takeProfitPrice := 0
  trailingStop := 0
  currentTradeId := none
  barsInPosition := 0
  equity := initialEquity

namespace Bot

variable (bot : Bot)

/-- What a position leaves in memory that is opened at a price with an average range. -/
def opened (execPx atrVal : ℚ) (trade : ℕ) : Bot :=
  { bot with
    position := .long
    entryPrice := execPx
    stopPrice := execPx - 2 * atrVal
    takeProfitPrice := execPx + 2 * atrVal
    trailingStop := 0
    currentTradeId := some trade
    barsInPosition := 0 }

/-- What a position leaves that is closed with a profit. -/
def closed (pnl : ℚ) : Bot :=
  { bot with
    equity := bot.equity + pnl
    position := .none
    entryPrice := 0
    stopPrice := 0
    takeProfitPrice := 0
    trailingStop := 0
    currentTradeId := none
    barsInPosition := 0 }

def trailed (newTrail : ℚ) : Bot := { bot with trailingStop := max bot.trailingStop newTrail }

def counted : Bot :=
  if bot.position = .long then { bot with barsInPosition := bot.barsInPosition + 1 } else bot

def unrealizedPnlPct (price : ℚ) : ℚ :=
  if bot.position = .long ∧ bot.entryPrice > 0 then (price - bot.entryPrice) / bot.entryPrice
  else 0

end Bot

/-! ### Events -/

/-- What a listener can be called with here. -/
inductive Argument where
  | text (value : String)
  | record (symbol : String) (interval : Interval)
  | undefined
deriving DecidableEq

/-- Whether `onClose` starts a tick. -/
def onClose (config : Config) (symbol interval : Argument) : Bool :=
  ¬ (symbol ≠ .text config.symbol ∨ interval ≠ .text "1m")

def callWith (listener : Argument → Argument → Bool) (emitted : List Argument) : Bool :=
  listener (emitted.getD 0 .undefined) (emitted.getD 1 .undefined)

/-- What `notifyBarClosed` emits. -/
def barClosed (symbol : String) (interval : Interval) : List Argument := [.record symbol interval]

/-! ### Trades -/

inductive TradeStatus where
  | opened
  | closed
deriving DecidableEq

/-- A trade row, and the bot that has opened it. -/
structure Trade where
  bot : ℕ
  userId : String
  strategyId : String
  pair : String
  entryPrice : ℚ
  exitPrice : Option ℚ
  pnl : Option ℚ
  allocationUsd : Option ℚ
  status : TradeStatus

def Trade.close (trade : Trade) (exitPrice pnl : ℚ) : Trade :=
  { trade with exitPrice := some exitPrice, pnl := some pnl, status := .closed }

/-- Every bot there has been, the trade rows, and the bots of the ticks that events have started
and that have not run yet. -/
structure Desk where
  bots : List Bot
  trades : List Trade
  pending : List ℕ

/-! ### Operations -/

inductive Action where
  | buy
  | sell
  | hold
deriving DecidableEq

/-- The fields of a `MetaDecision` that the bot looks at. -/
structure MetaDecision where
  action : Action
  orderSizeUsdt : ℚ

/-- What the meta-policy is asked. -/
structure Situation where
  symbol : String
  userId : String
  openPositions : ℕ
  unrealizedPnlPct : ℚ
  barsInPosition : ℕ
  equity : ℚ

/-- The top of a book. -/
structure BookTicker where
  bid : ℚ
  ask : ℚ

/-- A bot and its memory. -/
structure Found where
  index : ℕ
  bot : Bot

inductive Op where
  | install (config : Config) (initialEquity : ℚ)
  | detach (userId : String)
  | remove (userId : String)
  | emit (symbol : String) (interval : Interval)
  | nextTick
  | readBot (bot : ℕ)
  | raiseTrail (bot : ℕ) (newTrail : ℚ)
  | countBar (bot : ℕ)
  | setLong (bot : ℕ) (execPx atrVal : ℚ) (trade : ℕ)
  | setFlat (bot : ℕ) (pnl : ℚ)
  | getRecent (symbol : String) (interval : Interval) (limit : ℕ)
  | fetchBookTicker (symbol : String)
  | decide (situation : Situation)
  | createTrade (trade : Trade)
  | findOpenTrade (trade : Option ℕ) (userId : String)
  | closeTrade (trade : ℕ) (exitPrice pnl : ℚ)
  | updatePortfolio (userId : String) (pnl : ℚ)
  | findPortfolio (userId : String)
  | appendTradingLog (userId message : String)

@[reducible] def Result : Op → Type
  | .install _ _ => ℕ
  | .detach _ => Found
  | .remove _ => Unit
  | .emit _ _ => Unit
  | .nextTick => Option Found
  | .readBot _ => Bot
  | .raiseTrail _ _ => ℚ
  | .countBar _ => Unit
  | .setLong _ _ _ _ => Unit
  | .setFlat _ _ => Unit
  | .getRecent _ _ _ => List Bar
  | .fetchBookTicker _ => Option BookTicker
  | .decide _ => MetaDecision
  | .createTrade _ => ℕ
  | .findOpenTrade _ _ => Option (Async.Stored Trade)
  | .closeTrade _ _ _ => Unit
  | .updatePortfolio _ _ => Unit
  | .findPortfolio _ => Option ℚ
  | .appendTradingLog _ _ => Unit

/-- Memory is there, the rows are a store, the book may be missing, and everything else answers or
fails. -/
@[reducible] def Fate : Op → Type
  | .install _ _ => Unit
  | .detach _ => Unit
  | .remove _ => Unit
  | .emit _ _ => Unit
  | .nextTick => Unit
  | .readBot _ => Unit
  | .raiseTrail _ _ => Unit
  | .countBar _ => Unit
  | .setLong _ _ _ _ => Unit
  | .setFlat _ _ => Unit
  | .fetchBookTicker _ => Option BookTicker
  | .createTrade _ => Delivery
  | .findOpenTrade _ _ => Delivery
  | .closeTrade _ _ _ => Delivery
  | op => Except String (Result op)

/-! ### Effects -/

namespace Desk

variable (desk : Desk)

def onBot (bot : ℕ) (change : Bot → Bot) : Desk :=
  { desk with bots := desk.bots.modify bot change }

/-- Whether `bots` has a bot of a user. -/
def runs (userId : String) : Bool :=
  desk.bots.any fun bot => bot.running ∧ bot.config.userId = userId

def runningBot (userId : String) : Option Found :=
  (desk.bots.mapIdx Found.mk).find? fun found =>
    found.bot.running ∧ found.bot.config.userId = userId

/-- The bots whose handlers start a tick when something is emitted. -/
def started (emitted : List Argument) : List ℕ :=
  ((desk.bots.mapIdx Found.mk).filter fun found =>
    found.bot.listening ∧ callWith (onClose found.bot.config) emitted).map Found.index

end Desk

def withBot {Answer : Type} (desk : Desk) (bot : ℕ) (change : Bot → Bot) (answer : Bot → Answer) :
    Desk × Except String Answer :=
  match desk.bots[bot]? with
  | some found => (desk.onBot bot change, .ok (answer found))
  | none => (desk, .error "no such bot")

def Desk.findOpen (desk : Desk) (trade : ℕ) (userId : String) : Option (Async.Stored Trade) :=
  (desk.trades[trade]?.filter fun row => row.userId = userId ∧ row.status = .opened).map
    (Async.Stored.mk trade)

def perform : (op : Op) → Fate op → Desk → Desk × Except String (Result op)
  | .install config initialEquity, _, desk =>
    if desk.runs config.userId then (desk, .error "Bot already running for this user")
    else ({ desk with bots := desk.bots ++ [newBot config initialEquity] }, .ok desk.bots.length)
  | .detach userId, _, desk =>
    match desk.runningBot userId with
    | none => (desk, .error "No active advanced bot for this user")
    | some found =>
      (desk.onBot found.index fun bot => { bot with listening := false }, .ok found)
  | .remove userId, _, desk =>
    ({ desk with bots := desk.bots.map fun bot =>
        if bot.config.userId = userId then { bot with running := false } else bot }, .ok ())
  | .emit symbol interval, _, desk =>
    ({ desk with pending := desk.pending ++ desk.started (barClosed symbol interval) }, .ok ())
  | .nextTick, _, desk =>
    ({ desk with pending := desk.pending.tail },
      .ok (desk.pending.head?.bind fun bot => desk.bots[bot]?.map (Found.mk bot)))
  | .readBot bot, _, desk => withBot desk bot id id
  | .raiseTrail bot newTrail, _, desk =>
    withBot desk bot (Bot.trailed · newTrail) fun found => (found.trailed newTrail).trailingStop
  | .countBar bot, _, desk => withBot desk bot Bot.counted fun _ => ()
  | .setLong bot execPx atrVal trade, _, desk =>
    withBot desk bot (Bot.opened · execPx atrVal trade) fun _ => ()
  | .setFlat bot pnl, _, desk => withBot desk bot (Bot.closed · pnl) fun _ => ()
  | .createTrade trade, delivery, desk =>
    delivery.write desk { desk with trades := desk.trades ++ [trade] } desk.trades.length
  | .findOpenTrade trade userId, delivery, desk =>
    match trade with
    | none => (desk, .error "Argument id must not be null.")
    | some trade => delivery.read desk (desk.findOpen trade userId)
  | .closeTrade trade exitPrice pnl, delivery, desk =>
    delivery.update desk desk.trades[trade]? fun _ =>
      ({ desk with trades := desk.trades.modify trade (Trade.close · exitPrice pnl) }, ())
  | .fetchBookTicker _, book, desk => (desk, .ok book)
  | .getRecent _ _ _, answer, desk => (desk, answer)
  | .decide _, answer, desk => (desk, answer)
  | .updatePortfolio _ _, answer, desk => (desk, answer)
  | .findPortfolio _, answer, desk => (desk, answer)
  | .appendTradingLog _ _, answer, desk => (desk, answer)

/-- The memory of the bots and the world around them. -/
abbrev market : Async.Service where
  State := Desk
  Op := Op
  Result := Result
  Failure := String
  Fate := Fate
  perform := perform

abbrev Call (Value : Type) := Async.Program market Value

def await (op : Op) : Call (Result op) := @Async.Program.perform market op

/-! ### Opening -/

section Paper

variable (paper : PaperConfig)

structure OpenedPosition where
  id : ℕ
  executionPrice : ℚ

/-- The row of a new position. -/
def Config.trade (config : Config) (bot : ℕ) (entryPrice : ℚ) (allocationUsd : Option ℚ) :
    Trade where
  bot := bot
  userId := config.userId
  strategyId := config.strategyId
  pair := config.pair
  entryPrice := entryPrice
  exitPrice := none
  pnl := none
  allocationUsd := allocationUsd
  status := .opened

def paperOpenPosition (bot : ℕ) (config : Config) (entryAsk allocationUsd : ℚ) :
    Call OpenedPosition := do
  let executionPrice := paper.paperExecutionBuyPrice entryAsk
  let id ← await (.createTrade (config.trade bot executionPrice (some allocationUsd)))
  await (.appendTradingLog config.userId ("OPEN " ++ config.pair ++ " exec " ++
    (toFixed 6 executionPrice).render ++ " (ask " ++ (toFixed 6 entryAsk).render ++ " + " ++
    toString paper.slippageBps ++ " bps slip) alloc $" ++ (toFixed 2 allocationUsd).render))
  pure ⟨id, executionPrice⟩

/-- The average range that the stops are set by; one percent of the price where there is none. -/
def positionRange (config : Config) (markPrice : ℚ) : Call ℚ :=
  recover (do
    let bars ← await (.getRecent config.symbol .oneHour 30)
    let range := lastAtr 14 bars
    pure (if 15 ≤ bars.length ∧ range ≠ 0 then range else markPrice * (1 / 100)))
    fun _ => pure (markPrice * (1 / 100))

def openPosition (bot : ℕ) (config : Config) (markPrice sizeUsdt : ℚ) : Call Unit := do
  let atrVal ← positionRange config markPrice
  match config.mode with
  | .paper => do
    let book ← await (.fetchBookTicker config.symbol)
    let entryAsk := (book.map BookTicker.ask).getD markPrice
    let created ← paperOpenPosition paper bot config entryAsk (max 10 sizeUsdt)
    await (.setLong bot created.executionPrice atrVal created.id)
    let _ ← await (.findPortfolio config.userId)
    pure ()
  | .live => do
    let trade ← await (.createTrade (config.trade bot markPrice none))
    await (.setLong bot markPrice atrVal trade)

/-! ### Closing -/

/-- The profit that closing a row at a price is booked with. -/
def closingPnl (row : Trade) (exitExec : ℚ) : ℚ :=
  let alloc := row.allocationUsd.getD 0
  if alloc > 0 ∧ row.entryPrice > 0 then paper.paperRoundTripPnl alloc row.entryPrice exitExec
  else exitExec - row.entryPrice

def paperClosePosition (userId : String) (trade : Option ℕ) (exitBid : ℚ) : Call (Option ℚ) := do
  let t ← await (.findOpenTrade trade userId)
  match t with
  | none => pure none
  | some stored => do
    let exitExec := paper.paperExecutionSellPrice exitBid
    let pnl := closingPnl paper stored.row exitExec
    await (.closeTrade stored.id exitExec pnl)
    await (.updatePortfolio userId pnl)
    await (.appendTradingLog userId ("CLOSE " ++ toString stored.id ++ " exec " ++
      (toFixed 6 exitExec).render ++ " (bid " ++ (toFixed 6 exitBid).render ++ " − " ++
      toString paper.slippageBps ++ " bps slip) net PnL $" ++ (toFixed 4 pnl).render ++
      " (incl. " ++ toString paper.takerFeeBps ++ " bps taker / leg)"))
    pure (some pnl)

/-- What closes a position that is not on paper: the mark price is booked against the entry. -/
def closeLive (bot : ℕ) (userId : String) (markPrice entryPrice : ℚ) (trade : ℕ) : Call Unit := do
  let pnl := markPrice - entryPrice
  await (.closeTrade trade markPrice pnl)
  await (.updatePortfolio userId pnl)
  await (.setFlat bot pnl)
  let _ ← await (.findPortfolio userId)
  pure ()

def closePaper (bot : ℕ) (config : Config) (markPrice : ℚ) : Call Unit := do
  let book ← await (.fetchBookTicker config.symbol)
  let exitBid := (book.map BookTicker.bid).getD markPrice
  let state ← await (.readBot bot)
  let pnl ← paperClosePosition paper config.userId state.currentTradeId exitBid
  match pnl with
  | none => pure ()
  | some pnl => do
    await (.setFlat bot pnl)
    let _ ← await (.findPortfolio config.userId)
    pure ()

def closePosition (bot : ℕ) (config : Config) (markPrice : ℚ) : Call Unit := do
  let state ← await (.readBot bot)
  match state.currentTradeId with
  | none => pure ()
  | some trade =>
    match config.mode with
    | .paper => closePaper paper bot config markPrice
    | .live => closeLive bot config.userId markPrice state.entryPrice trade

/-! ### The tick -/

/-- Whether the trailing stop has ended a tick. -/
def trailingExit (bot : ℕ) (config : Config) (price atr14 entryPrice : ℚ) : Call Bool :=
  if price > entryPrice + atr14 then do
    let trailingStop ← await (.raiseTrail bot (price - 3 / 2 * atr14))
    if price ≤ trailingStop then do
      closePosition paper bot config price
      pure true
    else pure false
  else pure false

/-- Whether the exits have ended a tick. -/
def hardExits (bot : ℕ) (config : Config) (price : ℚ) : Call Bool := do
  let bars ← await (.getRecent config.symbol .oneHour 30)
  if 15 ≤ bars.length then do
    let state ← await (.readBot bot)
    if price ≤ state.stopPrice then do
      closePosition paper bot config price
      pure true
    else if price ≥ state.takeProfitPrice ∧ state.takeProfitPrice > 0 then do
      closePosition paper bot config price
      pure true
    else trailingExit paper bot config price (lastAtr 14 bars) state.entryPrice
  else pure false

/-- What the meta-policy is asked about a bot. -/
def Bot.situation (bot : Bot) (price : ℚ) : Situation where
  symbol := bot.config.symbol
  userId := bot.config.userId
  openPositions := if bot.position = .long then 1 else 0
  unrealizedPnlPct := bot.unrealizedPnlPct price
  barsInPosition := bot.barsInPosition
  equity := bot.equity

def execute (bot : ℕ) (config : Config) (price : ℚ) (decision : MetaDecision)
    (position : Position) : Call Unit :=
  if decision.action = .buy ∧ position = .none then
    openPosition paper bot config price decision.orderSizeUsdt
  else if decision.action = .sell ∧ position = .long then closePosition paper bot config price
  else pure ()

def tickDecision (bot : ℕ) (config : Config) (price : ℚ) : Call Unit := do
  let state ← await (.readBot bot)
  let decision ← await (.decide (state.situation price))
  let later ← await (.readBot bot)
  execute paper bot config price decision later.position
  await (.countBar bot)

/-- Whether the exits of a position, if there is one, have ended a tick. -/
def exitsIfLong (bot : ℕ) (config : Config) (price : ℚ) : Call Bool := do
  let state ← await (.readBot bot)
  if state.position = .long then hardExits paper bot config price else pure false

def tick (bot : ℕ) (config : Config) : Call Unit := do
  let recent ← await (.getRecent config.symbol .oneMinute 1)
  match recent with
  | [] => pure ()
  | bar :: _ => do
    let ended ← exitsIfLong paper bot config bar.close
    if ended then pure () else tickDecision paper bot config bar.close

/-! ### Start and stop -/

/-- A tick whose failure is logged and forgotten. -/
def runTick (bot : ℕ) (config : Config) : Call Unit :=
  recover (tick paper bot config) fun _ => pure ()

def start (config : Config) (initialEquity : ℚ) : Call Unit := do
  let bot ← await (.install config initialEquity)
  runTick paper bot config

/-- `stop` on paper: the row is closed at the bid, and the memory is reset. -/
def stopPaper (bot : ℕ) (config : Config) (mark : ℚ) : Call Unit := do
  let book ← await (.fetchBookTicker config.symbol)
  let exitBid := (book.map BookTicker.bid).getD mark
  let state ← await (.readBot bot)
  let _ ← paperClosePosition paper config.userId state.currentTradeId exitBid
  await (.setFlat bot 0)

def stopPosition (bot : ℕ) (config : Config) : Call Unit := do
  let recent ← await (.getRecent config.symbol .oneMinute 1)
  let state ← await (.readBot bot)
  let mark := (recent.head?.map Bar.close).getD state.entryPrice
  match config.mode with
  | .paper => stopPaper paper bot config mark
  | .live => closePosition paper bot config mark

def stop (userId : String) : Call Unit := do
  let found ← await (.detach userId)
  if found.bot.position = .long ∧ found.bot.currentTradeId.isSome then
    stopPosition paper found.index found.bot.config
  await (.remove userId)

/-! ### Requests -/

def notifyBarClosed (symbol : String) (interval : Interval) : Call Unit :=
  await (.emit symbol interval)

/-- One tick that an event has started, if there is one. -/
def eventTick : Call Unit := do
  let found ← await .nextTick
  match found with
  | none => pure ()
  | some found => runTick paper found.index found.bot.config

inductive Request where
  | start (config : Config) (initialEquity : ℚ)
  | stop (userId : String)
  | bar (symbol : String) (interval : Interval)
  | tick

def Request.call : Request → Call Unit
  | .start config initialEquity => Advanced.start paper config initialEquity
  | .stop userId => Advanced.stop paper userId
  | .bar symbol interval => notifyBarClosed symbol interval
  | .tick => eventTick paper

/-- An application that has just started, with a list of requests. -/
def advancedSystem (requests : List Request) : Async.System market Unit where
  moment := ⟨⟨[], [], []⟩, []⟩
  calls := requests.map (Request.call paper)

end Paper

end GdslExchange.Advanced
