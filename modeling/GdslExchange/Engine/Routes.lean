/-
This file models the routes of the engine that start and stop a live bot, and what of a
live bot runs beside them: the tick that a start leaves behind, and those of its interval.

A start answers when the probe has ended. The first tick of the bot, which it does not
wait for, is therefore a call of its own here; it may come at any time, and so may one of
every bot there has been. What a stop reports of the session is left out.
-/

import GdslExchange.Engine.Desk

namespace GdslExchange.Engine

open Async.Program
open Numeric
open Live (BotSettings)

/-! ### Order size -/

structure LiveOrderSizeInput where
  freeUsdt : ℚ
  tradeSizePct : ℚ
  requestedOrderSizeUsdt : Option ℚ
  maxOrderNotional : Option ℚ
  envMaxOrderUsdt : Option ℚ

structure SizeCaps where
  fromPct : ℚ
  fromRequested : Option ℚ
  fromRiskRule : Option ℚ
  fromEnv : Option ℚ
  fromFreeBuffer : ℚ

structure LiveOrderSizeResult where
  orderSizeUsdt : ℚ
  caps : SizeCaps
  reasons : List String

def floorUsdt (n : ℚ) : ℚ := ⌊n * 100⌋ / 100

/-- A cap is a number above zero, rounded down. -/
def capOf (cap : Option ℚ) : Option ℚ := (cap.filter (0 < ·)).map floorUsdt

def dollars (amount : ℚ) : String := "$" ++ (toFixed 2 amount).render

/-- An order and the reasons for its size, under one more cap. -/
def capped (sized : ℚ × List String) (label : String) : Option ℚ → ℚ × List String
  | none => sized
  | some cap =>
    if cap < sized.1 then (cap, sized.2 ++ [label ++ " → " ++ dollars cap]) else sized

/-- `maxFreeFraction` and `minOrderUsdt`, where they are not given. -/
def maxFreeFraction : ℚ := 95 / 100

def minOrderUsdt : ℚ := 5

def computeLiveOrderSize (input : LiveOrderSizeInput) : LiveOrderSizeResult :=
  let free := if 0 < input.freeUsdt then input.freeUsdt else 0
  let pct := min 100 (max 10 (if input.tradeSizePct = 0 then 50 else input.tradeSizePct))
  let caps : SizeCaps :=
    { fromPct := floorUsdt (free * (pct / 100))
      fromRequested := capOf input.requestedOrderSizeUsdt
      fromRiskRule := capOf input.maxOrderNotional
      fromEnv := capOf input.envMaxOrderUsdt
      fromFreeBuffer := floorUsdt (free * maxFreeFraction) }
  let byPct := (caps.fromPct, [text pct ++ "% of free USDT → " ++ dollars caps.fromPct])
  let byRequest := capped byPct "Requested cap" caps.fromRequested
  let byRisk := capped byRequest "Risk maxOrderNotional" caps.fromRiskRule
  let byEnv := capped byRisk "CEX env max" caps.fromEnv
  let sized := capped byEnv ("Free-balance buffer (" ++ text (maxFreeFraction * 100) ++ "%)")
    (some caps.fromFreeBuffer)
  let order := floorUsdt sized.1
  { orderSizeUsdt := order
    caps
    reasons :=
      if order < minOrderUsdt then
        sized.2 ++ ["Below minimum " ++ dollars minOrderUsdt ++ " — not enough free USDT at " ++
          text pct ++ "%"]
      else sized.2 }

/-! ### Requests and answers -/

inductive Base where
  | btc
  | eth
  | bnb
  | sol
  | xrp
  | doge
  | usdc
deriving DecidableEq

def Base.text : Base → String
  | btc => "BTC"
  | eth => "ETH"
  | bnb => "BNB"
  | sol => "SOL"
  | xrp => "XRP"
  | doge => "DOGE"
  | usdc => "USDC"

def Base.pair (base : Base) : String := base.text ++ "/USDT"

/-- `pair.replace('/', '')`. -/
def Base.symbol (base : Base) : String := base.text ++ "USDT"

/-- A live bot is started with a connection. -/
inductive Mode where
  | wallet
  | live (exchangeConnectionId : String)

/-- A body that `engineStartSchema` has passed. -/
structure StartBody where
  strategyId : String
  pair : Base
  mode : Mode
  orderSizeUsdt : Option ℚ
  tradeSizePct : Option ℚ

inductive Response where
  | refused (status : ℕ) (error : String)
  | started (sessionId : ℕ) (strategy : String) (sized : LiveOrderSizeResult)
  | stopped (sessionId : ℕ)

/-! ### Readiness -/

def minSignalProviderCount : ℕ := 1

def minSignalConsensusConfidence : ℚ := 2 / 10

def maxSignalAgeMs : ℤ := 3 * 60 * 1000

def startBlockers (signal : SignalReadiness) (now : ℤ) : List String :=
  (if signal.providerCount < minSignalProviderCount then
    ["Need at least " ++ toString minSignalProviderCount ++ " signal providers online."] else []) ++
  (if signal.confidence < minSignalConsensusConfidence then
    ["Signal consensus confidence too low (" ++ (toFixed 2 signal.confidence).render ++ ")."]
    else []) ++
  if now - signal.updatedAt > maxSignalAgeMs then ["Signal feed is stale."] else []

/-- The free USDT of the account, or none where it cannot be read. -/
def freeUsdt (conn : ExchangeConnection) : Call ℚ :=
  recover (await (.getFreeUsdt conn.encryptedApiKey conn.encryptedSecret)) fun _ => pure 0

section Start

variable (maxOrderUsdt : ℚ) (body : StartBody)

/-- The order size that a connection can pay for, or a refusal. -/
def sizeOrder (conn : ExchangeConnection) : Call (Except Response LiveOrderSizeResult) := do
  let realUsdt ← freeUsdt conn
  if realUsdt < 1 then
    return .error (.refused 400 ("Binance USDT balance is " ++ dollars realUsdt ++
      " — need at least $1. Deposit USDT on Binance first."))
  else
    let maxOrderNotional ← await .findMaxOrderNotional
    let resolvedTradeSizePct := body.tradeSizePct.getD 50
    let sized := computeLiveOrderSize
      { freeUsdt := realUsdt
        tradeSizePct := resolvedTradeSizePct
        requestedOrderSizeUsdt := body.orderSizeUsdt
        maxOrderNotional
        envMaxOrderUsdt := some maxOrderUsdt }
    if sized.orderSizeUsdt < 5 then
      return .error (.refused 400 ("Not enough USDT for a live order at " ++
        text resolvedTradeSizePct ++ "% (sized " ++ dollars sized.orderSizeUsdt ++
        ", minimum $5). Deposit USDT, raise the size slider, " ++
        "or raise CEX_LIVE_MAX_ORDER_USDT / risk maxOrderNotional."))
    else return .ok sized

def checkConnection (exchangeConnectionId : String) :
    Call (Except Response LiveOrderSizeResult) := do
  let found ← await (.findConnection exchangeConnectionId)
  match found.filter fun conn => conn.canTrade with
  | none =>
    return .error (.refused 400 ("No active Binance connection with trading permission. " ++
      "On the Exchange page, connect your key and click Test (Spot / TRD_GRP_* permissions are " ++
      "detected). If you use IP restrictions on the key, whitelist the API server outbound IP " ++
      "shown there."))
  | some conn =>
    if conn.canWithdraw then
      return .error (.refused 400 ("Live automation requires a trade-only Binance API key. " ++
        "Withdraw-enabled keys are blocked for security."))
    else sizeOrder maxOrderUsdt body conn

/-- What a live start checks before it writes anything. -/
def preflight (exchangeConnectionId : String) : Call (Except Response LiveOrderSizeResult) := do
  let signalReadiness ← await (.computeOpenSignalSnapshot body.pair.symbol)
  let now ← await (.bot .currentTime)
  match startBlockers signalReadiness now with
  | blocker :: _ => return .error (.refused 400 blocker)
  | [] =>
    let readiness ← await (.computeAutomationReadiness exchangeConnectionId)
    if !readiness.ready then
      return .error (.refused 400
        (readiness.blockers.head?.getD "Live automation preflight checks failed."))
    else checkConnection maxOrderUsdt body exchangeConnectionId

/-! ### Start -/

/-- `liveTradingBot.start`, without the tick that it leaves behind. -/
def startBot (settings : BotSettings) : Live.Call Unit := do
  let running ← Live.await .isRunning
  throwIf running "Bot already running for this user"
  let portfolio ← Live.await .findPortfolio
  let bot ← Live.await (.installBot settings (portfolio.getD 0))
  Live.runLiveStartupProbe bot settings

def startSession (strategy : String) (session : ℕ) (sized : LiveOrderSizeResult) :
    Call Response := do
  let botRun ← await (.createRun body.strategyId)
  recover (do
      bots.embed (startBot ⟨body.pair.pair, body.pair.symbol, sized.orderSizeUsdt⟩)
      await (.createEvent botRun .botStarted)
      return .started session strategy sized) fun _ => do
    await (.deleteSession session)
    await (.failRun botRun "engine_start_failed")
    return .refused 500 "Failed to start live bot engine"

def startLive (strategy exchangeConnectionId : String) : Call Response := do
  let checked ← preflight maxOrderUsdt body exchangeConnectionId
  match checked with
  | .error refusal => return refusal
  | .ok sized =>
    let session ← await (.createSession body.strategyId)
    startSession body strategy session sized

/-- The handler of `POST /start`. -/
def start : Call Response := do
  let strategy? ← await (.findStrategy body.strategyId)
  match strategy? with
  | none => return .refused 404 "Strategy not found"
  | some strategy =>
    let existingSession ← await .findActiveSession
    match existingSession with
    | some _ => return .refused 400 "Bot is already running. Stop it first."
    | none =>
      match body.mode with
      | .wallet =>
        return .refused 400 ("Real swaps use your Trust Wallet on BSC — open the DEX bot page, " ++
          "connect your wallet, and trade on PancakeSwap. This API route only starts Binance " ++
          "live automation.")
      | .live exchangeConnectionId => startLive maxOrderUsdt body strategy exchangeConnectionId

end Start

/-! ### Stop -/

/-- The bot is stopped if one runs; what goes wrong is ignored. -/
def stopBot : Call Unit :=
  recover (do
    let running ← await (.bot .isRunning)
    if running then bots.embed Live.stop else pure ()) fun _ => pure ()

/-- The latest run that is still running is closed. -/
def closeRun : Call Unit := do
  let run ← await .findRunningRun
  match run with
  | none => pure ()
  | some run => do
    await (.stopRun run "manual_stop")
    await (.createEvent run .botStopped)

/-- The handler of `POST /stop`. -/
def stop : Call Response := do
  let session ← await .findActiveSession
  match session with
  | none => return .refused 404 "No active bot session found"
  | some session =>
    stopBot
    await (.updateSession session)
    closeRun
    return .stopped session

/-! ### Everything that may be called -/

/-- The tick that a start leaves behind. -/
def firstTick (bot : ℕ) : Live.Call Unit := do
  let reading ← Live.await (.readBot bot)
  recover (Live.tick bot reading.bot.settings) fun _ => pure ()

inductive Request where
  | start (body : StartBody)
  | stop
  | firstTick (bot : ℕ)
  | intervalTick (bot : ℕ)

def Request.call (maxOrderUsdt : ℚ) : Request → Call (Option Response)
  | start body => do
    let response ← Engine.start maxOrderUsdt body
    return some response
  | stop => do
    let response ← Engine.stop
    return some response
  | firstTick bot => do
    bots.embed (Engine.firstTick bot)
    return none
  | intervalTick bot => do
    bots.embed (Live.intervalTick bot)
    return none

/-- A process that has just started, with the sessions of earlier ones stopped. -/
def engineSystem (past : Sessions) (maxOrderUsdt : ℚ) (requests : List Request) :
    Async.System engine (Option Response) where
  moment := ⟨⟨past.deactivateAll, ⟨[], none, false, []⟩⟩, []⟩
  calls := requests.map (Request.call maxOrderUsdt)

end GdslExchange.Engine
