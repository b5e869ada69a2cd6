/-
This file models the calls of the paper bot: its start with the startup probe, its
ticks over the pairs, and its stop.

Ticks of one bot, its probe and the closing of its positions by `stop` run side by
side: the interval fires whether or not the last tick has ended, the first tick is
not waited for, and a second start that overlaps the first leaves two bots.
-/

import GdslExchange.Numeric.Fixed
import GdslExchange.Paper.Desk

namespace GdslExchange.Paper

open Async (Stored)
open Async.Program
open Numeric

/-! ### Text -/

/-- `pair.replace('/', '')`. -/
def symbolOf (pair : String) : String :=
  let (before, after) := pair.toList.span (· ≠ '/')
  String.ofList (before ++ after.drop 1)

def SignalAction.text : SignalAction → String
  | buy => "BUY"
  | sell => "SELL"
  | hold => "HOLD"

def log (kind : TradingLogKind) (message : String) : Call Unit := do
  let _ ← await (.appendTradingLog kind message)
  pure ()

/-! ### Opening and closing -/

structure OpenedPosition where
  id : ℕ
  executionPrice : ℚ

section Execution

variable (config : PaperConfig)

/-- The row of a new position. -/
def openedRow (pair : String) (entryAsk allocationUsd : ℚ) : PaperTrade where
  pair := pair
  entryPrice := config.paperExecutionBuyPrice entryAsk
  exitPrice := none
  pnl := none
  allocationUsd := some allocationUsd
  status := .opened

def paperOpenPosition (opening : Opening) (pair : String) (entryAsk allocationUsd : ℚ) :
    Call OpenedPosition := do
  let executionPrice := config.paperExecutionBuyPrice entryAsk
  let trade ← await (.createTrade opening (openedRow config pair entryAsk allocationUsd))
  log .exec ("OPEN " ++ pair ++ " exec " ++ (toFixed 6 executionPrice).render ++ " (ask " ++
    (toFixed 6 entryAsk).render ++ " + " ++ toString config.slippageBps ++ " bps slip) alloc $" ++
    (toFixed 2 allocationUsd).render)
  pure ⟨trade, executionPrice⟩

/-- The profit that closing a row at a price is booked with. -/
def closingPnl (row : PaperTrade) (exitExec : ℚ) : ℚ :=
  let alloc := row.allocationUsd.getD 0
  if alloc > 0 ∧ row.entryPrice > 0 then config.paperRoundTripPnl alloc row.entryPrice exitExec
  else exitExec - row.entryPrice

/-- The two writes of a close: the row, then the portfolio. -/
def settleClose (trade : ℕ) (exitExec pnl : ℚ) : Call Unit := do
  let _ ← await (.closeTrade trade exitExec pnl)
  let _ ← await (.creditPortfolio trade pnl)
  pure ()

def paperClosePosition (trade : ℕ) (exitBid : ℚ) : Call (Option ℚ) := do
  let t ← await (.findOpenTrade trade)
  match t with
  | none => pure none
  | some stored => do
    let exitExec := config.paperExecutionSellPrice exitBid
    let pnl := closingPnl config stored.row exitExec
    settleClose stored.id exitExec pnl
    log .exec ("CLOSE " ++ toString stored.id ++ " exec " ++ (toFixed 6 exitExec).render ++
      " (bid " ++ (toFixed 6 exitBid).render ++ " − " ++ toString config.slippageBps ++
      " bps slip) net PnL $" ++ (toFixed 4 pnl).render ++ " (incl. " ++
      toString config.takerFeeBps ++ " bps taker / leg)")
    pure (some pnl)

/-! ### The tick -/

/-- `proposedFraction`, of the value of the portfolio. -/
def BotSettings.proposedFraction (settings : BotSettings) : ℚ :=
  maxCapitalPerTrade * (settings.tradeSizePct / 100)

theorem BotSettings.proposedFraction_pos (settings : BotSettings) :
    0 < settings.proposedFraction := by
  have size := settings.le_tradeSizePct
  unfold BotSettings.proposedFraction maxCapitalPerTrade
  linarith

def logSignal (pair : String) (signal : Option AISignalResult) : Call Unit :=
  match signal with
  | some signal =>
    log .signal (pair ++ " " ++ signal.action.text ++ " conf=" ++
      (toFixed 3 signal.confidence).render)
  | none => pure ()

/-- The drawdown check of a tick. -/
def observeEquity (bot : ℕ) (currentEquity : ℚ) : Call Unit := do
  let newlyHalted ← await (.observe bot currentEquity)
  if newlyHalted then log .risk "Drawdown >= 10% — new entries halted" else pure ()

def executionContext (settings : BotSettings) (signal : AISignalResult) (openCount : ℕ)
    (openForPair : List (Stored PaperTrade)) (pnls : List ℚ) (reading : BotReading) :
    ExecutionContext where
  proposedTradeFraction := settings.proposedFraction
  openPositionCount := openCount
  openExposureFraction := openCount * settings.proposedFraction
  hasOpenPositionOnPair := !openForPair.isEmpty
  volatilityPct := signal.volatilityPct
  drawdownHalted := reading.drawdownHalted
  stats := closedTradeStats pnls
  lastTradeAt := reading.lastExecutionAt
  now := reading.now

/-- The execution is stamped, and the portfolio is read for the event that is emitted. -/
def afterExecution (bot : ℕ) : Call Unit := do
  let _ ← await (.stampExecution bot)
  let _ ← await .findPortfolio
  pure ()

def tickBuy (bot : ℕ) (settings : BotSettings) (pair : String) (ask allocationUsd : ℚ) :
    Call Unit :=
  if allocationUsd ≤ 0 then pure ()
  else do
    let _ ← paperOpenPosition config (.tick settings) pair ask allocationUsd
    afterExecution bot

def tickSell (bot : ℕ) (bid : ℚ) (openForPair : List (Stored PaperTrade)) : Call Unit :=
  match openForPair with
  | [] => pure ()
  | oldest :: _ => do
    let _ ← paperClosePosition config oldest.id bid
    afterExecution bot

def logBlocked (signal : AISignalResult) (reason : String) : Call Unit :=
  if signal.action ≠ .hold then log .filter ("Execution blocked: " ++ reason) else pure ()

def tickSignal (bot : ℕ) (settings : BotSettings) (pair : String) (book : BookTicker)
    (totalValue : ℚ) (signal : AISignalResult) : Call Unit := do
  let openCount ← await .countOpenTrades
  let openForPair ← await (.findOpenTradesOf pair)
  let pnls ← await .findClosedPnls
  let reading ← await (.readBot bot)
  match shouldExecuteTrade signal
      (executionContext settings signal openCount openForPair pnls reading) with
  | .error reason => logBlocked signal reason
  | .ok .buy =>
    tickBuy config bot settings pair book.ask (totalValue * settings.proposedFraction)
  | .ok .sell => tickSell config bot book.bid openForPair

/-- The part of a tick that needs a price. -/
def tickBook (bot : ℕ) (settings : BotSettings) (pair : String) (signal : Option AISignalResult)
    (book : BookTicker) : Call Unit := do
  logSignal pair signal
  let portfolio ← await .findPortfolio
  match portfolio with
  | none => pure ()
  | some portfolio => do
    observeEquity bot portfolio.totalValue
    match signal with
    | none => pure ()
    | some signal => tickSignal config bot settings pair book portfolio.totalValue signal

def tickPair (bot : ℕ) (settings : BotSettings) (pair : String) : Call Unit := do
  let signal ← await (.computeAISignal (symbolOf pair))
  let book ← await (.fetchBookTicker (symbolOf pair))
  match book with
  | none => pure ()
  | some book => tickBook config bot settings pair signal book

def tick (bot : ℕ) (settings : BotSettings) : Call Unit :=
  forEach (tickPair config bot settings) settings.pairs

/-! ### The startup probe -/

def startupProbeMinUsd : ℚ := 5

def startupProbeMaxUsd : ℚ := 25

def probeUsd (total : ℚ) : ℚ := max startupProbeMinUsd (min startupProbeMaxUsd (total * (2 / 100)))

def probeRoundTrip (bot : ℕ) (settings : BotSettings) (book : BookTicker) (total : ℚ) :
    Call Unit := do
  let created ← paperOpenPosition config .probe settings.pair book.ask (probeUsd total)
  afterExecution bot
  let _ ← paperClosePosition config created.id book.bid
  afterExecution bot
  log .system "Startup probe round-trip complete (see EXEC lines above)"

/-- The part of the probe that needs a price. -/
def probeBook (bot : ℕ) (settings : BotSettings) (book : BookTicker) : Call Unit := do
  let portfolio ← await .findPortfolio
  let total := (portfolio.map Portfolio.totalValue).getD 0
  if total < probeUsd total + 1 then
    log .system ("Startup probe skipped: need at least ~$" ++
      (toFixed 0 (probeUsd total + 1)).render ++ " book (have $" ++ (toFixed 2 total).render ++ ")")
  else probeRoundTrip config bot settings book total

def runStartupProbe (bot : ℕ) (settings : BotSettings) : Call Unit := do
  let book ← await (.fetchBookTicker (symbolOf settings.pair))
  match book with
  | none => log .system "Startup probe skipped: no order book"
  | some book => probeBook config bot settings book

/-! ### Start and stop -/

/-- The arguments of `start` besides the user and the strategy. -/
structure StartRequest where
  pair : String
  tradeSizePct : Option ℚ
  pairs : List String

/-- The pairs that are asked for, each once, and the size within its bounds. -/
def StartRequest.settings (request : StartRequest) : BotSettings :=
  let asked := if request.pairs ≠ [] then request.pairs else [request.pair]
  let pairs := (asked.filter (· ≠ "")).eraseDups
  { pairs := pairs
    pair := pairs.head?.getD request.pair
    tradeSizePct := min 100 (max 10 (request.tradeSizePct.getD 50))
    le_tradeSizePct := le_min (by norm_num) (le_max_left _ _)
    tradeSizePct_le := min_le_left _ _ }

/-- The portfolio, created empty where there is none. -/
def ensurePortfolio : Call Portfolio := do
  let found ← await .findPortfolio
  match found with
  | some portfolio => pure portfolio
  | none => await .createPortfolio

/-- The probe, with its failure logged. -/
def probed (bot : ℕ) (settings : BotSettings) : Call Unit :=
  recover (runStartupProbe config bot settings) fun message =>
    recover (log .system ("Startup probe failed: " ++ message)) fun _ => pure ()

/-- `start`, and the first tick, which it does not wait for. -/
def start (request : StartRequest) : Call Unit := do
  let running ← await .isRunning
  throwIf running "Bot already running for this user"
  let portfolio ← ensurePortfolio
  let settings := request.settings
  let bot ← await (.installBot settings portfolio)
  log .system ("Paper bot started on " ++ ", ".intercalate settings.pairs ++ " (AI size " ++
    text settings.tradeSizePct ++ "%)")
  probed config bot settings
  recover (tick config bot settings) fun _ => pure ()

/-- What `stop` does with one OPEN trade. -/
def stopTrade (stored : Stored PaperTrade) : Call Unit := do
  let book ← await (.fetchBookTicker (symbolOf stored.row.pair))
  match book with
  | none => pure ()
  | some book => do
    let _ ← paperClosePosition config stored.id book.bid
    pure ()

structure SessionSummary where
  sessionDuration : ℕ
  totalTrades : ℕ

/-- `sessionDuration`, in seconds. -/
def sessionSeconds : Option ℕ → Call ℕ
  | some startedAt => do
    let now ← await .currentTime
    pure ((now - startedAt) / 1000)
  | none => pure 0

def stop : Call SessionSummary := do
  let running ← await .clearTimer
  let _ ← orThrow running "No active bot for this user"
  let openTrades ← await .findOpenTrades
  forEach (stopTrade config) openTrades
  let session ← await .findActiveSession
  let sessionDuration ← sessionSeconds session
  let totalTrades ← await (.countTradesSince (session.getD 0))
  let _ ← await .removeBot
  log .system ("Paper bot stopped (" ++ toString totalTrades ++ " trades in session)")
  pure ⟨sessionDuration, totalTrades⟩

/-- One firing of the interval of a bot, if it is set. -/
def intervalTick (bot : ℕ) : Call Unit := do
  let fired ← await (.fire bot)
  match fired with
  | none => pure ()
  | some settings => recover (tick config bot settings) fun _ => pure ()

/-! ### Requests -/

/-- What happens to the bot, and the deposits, withdrawals and reconciliations of the rest of
the application. -/
inductive Request where
  | start (request : StartRequest)
  | stop
  | interval (bot : ℕ)
  | moveFunds (amount : ℚ)

def Request.call : Request → Call Unit
  | start request => Paper.start config request
  | stop => do
    let _ ← Paper.stop config
    pure ()
  | interval bot => intervalTick config bot
  | moveFunds amount => await (.moveFunds amount)

/-- A desk without bots, on which a list of requests is made. -/
def paperSystem (trades : List PaperTrade) (portfolio : Option Portfolio)
    (requests : List Request) : Async.System paper Unit where
  moment := ⟨⟨trades, portfolio, [], none⟩, []⟩
  calls := requests.map (Request.call config)

end Execution

end GdslExchange.Paper
