/-
This file models the calls of the live bot: its start with the startup probe, its
ticks with the forced first entry, its stop and its emergency stop.

The interval fires every five seconds whether or not the last tick has ended, the
tick after the probe is not waited for, and a stop does not wait for any of them. A
promise that nobody awaits still settles; that is the last operation of each of
these calls, and it changes nothing.
-/

import GdslExchange.Live.Desk
import GdslExchange.Numeric.Fixed

namespace GdslExchange.Live

open Async.Program
open Numeric
open Paper (AISignalResult ExecutionContext Intent SignalAction closedTradeStats shouldExecuteTrade
  maxCapitalPerTrade)

/-! ### Text and amounts -/

def log (kind : LogKind) (message : String) : Call Unit := await (.appendTradingLog kind message)

def floorCents (amount : ℚ) : ℚ := ⌊amount * 100⌋ / 100

/-- The quantity that a SELL of some base is placed with: `Number(formatBaseQty(qty))`. -/
def formatBaseQty (qty : ℚ) : ℚ := (toFixed 8 qty).value

def actionText : SignalAction → String
  | .buy => "BUY"
  | .sell => "SELL"
  | .hold => "HOLD"

/-! ### Orders -/

/-- An order, or nothing where it is rejected and that is logged. -/
def tryOrder (bot : ℕ) (order : Order) : Call (Option ℚ) :=
  recover (do
    let filled ← await (.placeOrder bot order)
    pure (some filled)) fun message => do
    log .executionFailed message
    pure none

/-- What follows the fill of a BUY. -/
def bookLong (bot : ℕ) (settings : BotSettings) (price quoteQty qty : ℚ) : Call Unit := do
  log .executionSuccess ("BUY FILLED " ++ settings.symbol ++ ": " ++ text qty ++ " @ $" ++
    (toFixed 2 (quoteQty / qty)).render)
  await (.setLong bot qty price)
  let _ ← await .findPortfolio
  await (.stampExecution bot)
  log .exec ("[live] BUY " ++ settings.pair ++ " (" ++ settings.symbol ++ ") filled")

def placeLong (bot : ℕ) (settings : BotSettings) (price quoteQty : ℚ) : Call Unit := do
  log .attempt ("BUY " ++ settings.symbol ++ " $" ++ text quoteQty ++ " USDT @ " ++ text price)
  let filled ← tryOrder bot ⟨.buy, quoteQty⟩
  match filled with
  | none => pure ()
  | some qty =>
    if qty ≤ 0 then log .executionFailed "No fill quantity returned from Binance"
    else bookLong bot settings price quoteQty qty

def openLong (bot : ℕ) (price : ℚ) : Call Unit := do
  let reading ← await (.readBot bot)
  let quoteQty := floorCents reading.bot.orderSizeUsdt
  if quoteQty < 1 then
    log .validationFailed ("Order size $" ++ text quoteQty ++ " too small — minimum $1 USDT")
  else placeLong bot reading.bot.settings price quoteQty

/-- What follows the fill of a SELL: the position is reset whatever has been sold. -/
def bookFlat (bot : ℕ) (settings : BotSettings) (price soldQty : ℚ) : Call Unit := do
  log .executionSuccess ("SELL FILLED " ++ settings.symbol ++ ": " ++ text soldQty)
  let reading ← await (.readBot bot)
  await (.updatePortfolio ((price - reading.bot.entryPrice.getD 0) * soldQty))
  let _ ← await .findPortfolio
  log .exec ("[live] SELL " ++ settings.pair ++ " (" ++ settings.symbol ++ ") filled")
  await (.setFlat bot)

def placeFlat (bot : ℕ) (settings : BotSettings) (price qty : ℚ) : Call Unit := do
  log .attempt ("SELL " ++ settings.symbol ++ " qty=" ++ text qty ++ " @ " ++ text price)
  let reading ← await (.readBot bot)
  let filled ← tryOrder bot ⟨.sell, formatBaseQty reading.bot.baseQtyHeld⟩
  match filled with
  | none => pure ()
  | some soldQty => bookFlat bot settings price soldQty

def closePosition (bot : ℕ) (price : ℚ) : Call Unit := do
  let reading ← await (.readBot bot)
  if reading.bot.baseQtyHeld ≤ 0 ∨ reading.bot.entryPrice = none then pure ()
  else placeFlat bot reading.bot.settings price reading.bot.baseQtyHeld

/-- Close what is held, if anything is. -/
def closeHeld (bot : ℕ) (price : ℚ) : Call Unit := do
  let reading ← await (.readBot bot)
  if reading.bot.holds then closePosition bot price else pure ()

/-! ### The startup probe -/

def probeRoundTrip (bot : ℕ) (settings : BotSettings) (price : ℚ) : Call Unit := do
  openLong bot price
  let reading ← await (.readBot bot)
  if reading.bot.holds then do
    log .exec ("[live startup] Smoke BUY 5 USDT " ++ settings.symbol ++ " OK")
    closePosition bot price
    log .exec ("[live startup] Smoke SELL " ++ settings.symbol ++ " — engine OK")
  else pure ()

def runLiveStartupProbe (bot : ℕ) (settings : BotSettings) : Call Unit := do
  let found ← await (.fetchPrice settings.symbol)
  match found with
  | none => log .system "[live startup] No price — exchange probe skipped"
  | some price => do
    let begun ← await (.beginProbe bot)
    match begun with
    | none => log .system "[live startup] Order size under 1 USDT — skipping exchange smoke order"
    | some saved =>
      andFinally
        (recover (probeRoundTrip bot settings price) fun message =>
          log .system ("[live startup] Exchange probe failed: " ++ message))
        (await (.restoreSize bot saved))

/-! ### The exits of a tick -/

/-- The move since the entry, in percent. -/
def pnlPct (price entry : ℚ) : ℚ := (price - entry) / entry * 100

/-- Since an entry price of zero, which is what a missing one counts as, a move is infinite. -/
def takesProfit (exitPrefs : ExitPrefs) (price entry : ℚ) : Bool :=
  if entry = 0 then 0 < price else exitPrefs.takeProfitPct ≤ pnlPct price entry

def stopsLoss (exitPrefs : ExitPrefs) (price entry : ℚ) : Bool :=
  if entry = 0 then price < 0 else pnlPct price entry ≤ -exitPrefs.stopLossPct

def pnlText (price entry : ℚ) : String :=
  if entry = 0 then if price < 0 then "-Infinity" else "Infinity"
  else (toFixed 2 (pnlPct price entry)).render

/-- Whether the exits of a tick have ended it. -/
def hardExits (bot : ℕ) (price : ℚ) : Call Bool := do
  let exitPrefs ← await .getCexExitSettings
  if exitPrefs.enabled then do
    let reading ← await (.readBot bot)
    let entry := reading.bot.entryPrice.getD 0
    if takesProfit exitPrefs price entry then do
      log .exec ("[live] Take-profit " ++ pnlText price entry ++ "% ≥ " ++
        text exitPrefs.takeProfitPct ++ "% — closing " ++ reading.bot.settings.pair)
      closePosition bot price
      pure true
    else if stopsLoss exitPrefs price entry then do
      log .exec ("[live] Stop-loss " ++ pnlText price entry ++ "% ≤ -" ++
        text exitPrefs.stopLossPct ++ "% — closing " ++ reading.bot.settings.pair)
      closePosition bot price
      pure true
    else pure false
  else pure false

/-! ### The forced first entry -/

/-- The advice on an entry, if there is one. -/
def advise (symbol : String) (sizeUsdt accountEquityUsdt : ℚ) : Call (Option Advisory) :=
  recover (do
    let advisory ← await (.evaluateTradeIntent symbol sizeUsdt accountEquityUsdt)
    pure (some advisory)) fun _ => pure none

def forcedSize (safeSize : ℚ) (advisory : Option Advisory) : ℚ :=
  let finalSize := match advisory with
    | none => safeSize
    | some advisory =>
      if advisory.recommendedSizeUsdt > 0 then min safeSize advisory.recommendedSizeUsdt
      else safeSize
  max 1 (floorCents finalSize)

/-- The entry itself, with another order size for its time. -/
def forceOpen (bot : ℕ) (price size : ℚ) : Call Bool := do
  let saved ← await (.overwriteSize bot size)
  log .exec ("[live] Force opening first position at " ++ text price ++ " (" ++ text size ++ " USDT)")
  andFinally
    (recover (do
      openLong bot price
      pure true) fun message => do
      log .system ("[live] Force first BUY failed: " ++ message)
      pure false)
    (await (.restoreSize bot saved))

/-- A balance, or nothing where it cannot be read. -/
def usdtBalance : Call (Option ℚ) := recover (await .fetchBinanceUsdtBalance) fun _ => pure none

/-- Whether the forced first entry has ended the tick. -/
def forceFirst (bot : ℕ) (price : ℚ) : Call Bool := do
  let balance ← usdtBalance
  match balance with
  | none => pure false
  | some realBal =>
    if realBal > 0 then do
      let reading ← await (.readBot bot)
      let safeSize := floorCents (min (realBal * (9 / 10)) reading.bot.orderSizeUsdt)
      if safeSize ≥ 1 then do
        let advisory ← advise reading.bot.settings.symbol safeSize realBal
        if advisory.any fun advisory => ¬ advisory.allow then do
          log .filter "[live] First BUY blocked by signal advisor"
          pure true
        else forceOpen bot price (forcedSize safeSize advisory)
      else do
        log .system ("[live] Binance USDT balance too low for first trade (" ++ text realBal ++
          " USDT)")
        pure false
    else pure false

/-! ### The signal of a tick -/

/-- `emergencyStop`; persisting it is best effort. -/
def emergencyStop (bot : ℕ) (reason : String) : Call Unit := do
  await (.emergencyRemove bot)
  recover (await (.persistStop reason)) fun _ => pure ()

def executionContext (reading : BotReading) (signal : AISignalResult) (capitalUsd : ℚ)
    (pnls : List ℚ) : ExecutionContext :=
  let proposedTradeFraction := min maxCapitalPerTrade (reading.bot.orderSizeUsdt / capitalUsd)
  { proposedTradeFraction := proposedTradeFraction
    openPositionCount := if reading.bot.position = .long then 1 else 0
    openExposureFraction := if reading.bot.position = .long then proposedTradeFraction else 0
    hasOpenPositionOnPair := reading.bot.position = .long
    volatilityPct := signal.volatilityPct
    drawdownHalted := reading.bot.drawdownHalted
    stats := closedTradeStats pnls
    lastTradeAt := reading.bot.lastExecutionAt
    now := reading.now }

/-- A caution reduces the order size of the bot. -/
def heedCaution (bot : ℕ) (advisory : Advisory) : Call Unit := do
  let reduced := max 1 (floorCents advisory.recommendedSizeUsdt)
  let reading ← await (.readBot bot)
  if reduced > 0 ∧ reduced < reading.bot.orderSizeUsdt then do
    log .risk ("[live] Advisor caution — reducing size from " ++ text reading.bot.orderSizeUsdt ++
      " to " ++ text reduced ++ " USDT")
    await (.reduceSize bot reduced)
  else pure ()

/-- Whether the advisor lets a BUY pass. -/
def passAdvisor (bot : ℕ) (reading : BotReading) (capitalUsd : ℚ) : Call Bool := do
  let advisory ← advise reading.bot.settings.symbol reading.bot.orderSizeUsdt capitalUsd
  match advisory with
  | none => pure true
  | some advisory =>
    if ¬ advisory.allow then do
      log .filter "[live] Buy blocked by signal advisor"
      pure false
    else if advisory.caution then do
      heedCaution bot advisory
      pure true
    else pure true

def execute (bot : ℕ) (price : ℚ) : Intent → Call Unit
  | .buy => openLong bot price
  | .sell => closePosition bot price

/-- An intent is executed; a BUY without a position asks the advisor first. -/
def carryOut (bot : ℕ) (price capitalUsd : ℚ) (signal : AISignalResult) (reading : BotReading)
    (intent : Intent) : Call Unit :=
  if signal.action = .buy ∧ reading.bot.position = .none then do
    let passed ← passAdvisor bot reading capitalUsd
    if passed then execute bot price intent else pure ()
  else execute bot price intent

/-- The gate is the one of the paper bot; what it asks of a DEX alone does not matter here. -/
def tickDecision (bot : ℕ) (price capitalUsd : ℚ) (signal : AISignalResult) : Call Unit := do
  let pnls ← await .findClosedPnls
  let reading ← await (.readBot bot)
  match shouldExecuteTrade signal (executionContext reading signal capitalUsd pnls) with
  | .error reason =>
    if signal.action ≠ .hold then log .filter ("[live] Blocked: " ++ reason) else pure ()
  | .ok intent => carryOut bot price capitalUsd signal reading intent

/-- What a tick does about the drawdown, and then about the signal. -/
def tickObserved (bot : ℕ) (price : ℚ) (signal : AISignalResult) (observation : Observation) :
    Call Unit :=
  match observation.verdict with
  | .protect => do
    log .risk "[live] Capital protection stop: session drawdown exceeded 15% threshold"
    closeHeld bot price
    emergencyStop bot "risk_drawdown_halt"
  | .halted => do
    log .risk "[live] Drawdown >= 10% — new entries halted"
    tickDecision bot price observation.capitalUsd signal
  | .fine => tickDecision bot price observation.capitalUsd signal

def tickSignal (bot : ℕ) (settings : BotSettings) (price : ℚ) : Call Unit := do
  let found ← await (.computeAISignal settings.symbol)
  match found with
  | none => pure ()
  | some signal => do
    log .signal ("[live] " ++ actionText signal.action ++ " conf=" ++
      (toFixed 3 signal.confidence).render)
    let portfolio ← await .findPortfolio
    let observation ← await (.observeEquity bot (portfolio.getD 0))
    tickObserved bot price signal observation

/-! ### The tick -/

/-- Whether the forced first entry is due and has ended the tick. -/
def firstIfDue (bot : ℕ) (price : ℚ) (isFirst : Bool) : Call Bool :=
  if isFirst then forceFirst bot price else pure false

/-- Whether the exits or the forced first entry have ended the tick. -/
def tickEntry (bot : ℕ) (price : ℚ) : TickStart → Call Bool
  | .holding => do
    let ended ← hardExits bot price
    if ended then pure true
    else do
      let isFirst ← await (.claimFirstTick bot)
      firstIfDue bot price isFirst
  | .first => firstIfDue bot price true
  | .later => firstIfDue bot price false

def tick (bot : ℕ) (settings : BotSettings) : Call Unit := do
  let found ← await (.fetchPrice settings.symbol)
  match found with
  | none => pure ()
  | some price => do
    let tickStart ← await (.openTick bot)
    let ended ← tickEntry bot price tickStart
    if ended then pure () else tickSignal bot settings price

/-! ### Start and stop -/

/-- A call that holds a bot, until its promise settles. -/
def holding (bot : ℕ) (body : Call Unit) : Call Unit := andFinally body (await (.settle bot))

/-- What `start` does with the bot it has set: the probe, and then the tick it does not wait
for. -/
def startBot (bot : ℕ) (settings : BotSettings) : Call Unit := do
  runLiveStartupProbe bot settings
  recover (tick bot settings) fun _ => pure ()

def start (settings : BotSettings) : Call Unit := do
  let running ← await .isRunning
  throwIf running "Bot already running for this user"
  let portfolio ← await .findPortfolio
  let bot ← await (.installBot settings (portfolio.getD 0))
  holding bot (startBot bot settings)

/-- `stop` closes a position if it finds a price. -/
def stopPosition (bot : ℕ) (found : LiveBot) : Call Unit :=
  if found.holds then do
    let price ← await (.fetchPrice found.settings.symbol)
    match price with
    | none => pure ()
    | some price => closePosition bot price
  else pure ()

/-- `sessionDuration`, in seconds. -/
def sessionSeconds : Option ℕ → Call ℕ
  | none => pure 0
  | some startedAt => do
    let now ← await .currentTime
    pure ((now - startedAt) / 1000)

/-- What `stop` does with the bot whose interval it has cleared. -/
def stopBot (bot : ℕ) (found : LiveBot) : Call Unit := do
  stopPosition bot found
  let session ← await .findActiveSession
  let _ ← sessionSeconds session
  let _ ← await (.countOrdersSince (session.getD 0))
  await .removeBot

def stop : Call Unit := do
  let cleared ← await .clearTimer
  let found ← orThrow cleared "No active live bot for this user"
  holding found.1 (stopBot found.1 found.2)

/-- One firing of the interval of a bot, if it is set. -/
def intervalTick (bot : ℕ) : Call Unit := do
  let fired ← await (.fire bot)
  match fired with
  | none => pure ()
  | some settings => holding bot (recover (tick bot settings) fun _ => pure ())

/-! ### Requests -/

inductive Request where
  | start (settings : BotSettings)
  | stop
  | interval (bot : ℕ)

def Request.call : Request → Call Unit
  | start settings => Live.start settings
  | stop => Live.stop
  | interval bot => intervalTick bot

/-- A desk without bots, on which a list of requests is made. -/
def liveSystem (requests : List Request) : Async.System venue Unit where
  moment := ⟨⟨[], none, false, []⟩, []⟩
  calls := requests.map Request.call

end GdslExchange.Live
