/-
This file models the tick of the Jupiter Super Machine, from the row that the
watcher has read to the swap and the counters it writes after it.

The watcher reads the rows of all users and then ticks them one after the other, so
a tick starts from a row that may be old, and the counters it has read at its start
are the ones it adds its own BUY to.
-/

import GdslExchange.SuperMachine.Council

namespace GdslExchange.SuperMachine

open Async.Program

/-! ### Before the scan -/

/-- `BASE_COOLDOWN_MS`, `AUTO_SCAN_COOLDOWN_MS` and `AGGRESSIVE_COOLDOWN_MS`. -/
def Settings.cooldown (settings : Settings) : ℕ :=
  if settings.aggressiveMode then 2 * 60000
  else if settings.watchSymbol.isSome then 10 * 60000
  else 3 * 60000

def update (data : ConfigUpdate) : Call Config := await (.updateConfig data)

/-- Auto-scan never caps the positions below three. -/
def effectiveMaxOpen (settings : Settings) : Call ℕ :=
  if settings.watchSymbol.isNone ∧ settings.maxOpenPositions < 3 then do
    let _ ← update (.maxOpenPositions 3)
    pure 3
  else pure settings.maxOpenPositions

def resetDailyCountersIfNeeded (today : String) (row : Config) : Call Config :=
  if row.dayKey = some today then pure row else update (.resetCounters today)

def saveRaisedCap (saved effective : ℚ) : Call Unit :=
  if effective > saved + 5 / 10 then
    recover (do
      let _ ← update (.maxTradeUsd effective)
      pure ()) fun _ => pure ()
  else pure ()

/-- The USDC of the wallet, if it can be read. -/
def readUsdc : Call (Option ℚ) :=
  recover (do
    let usdc ← await .getSolanaBalances
    pure (some usdc)) fun _ => pure none

def effectiveMaxTrade (settings : Settings) : Call ℚ :=
  if settings.watchSymbol.isSome then pure settings.maxTradeUsd
  else do
    let balance ← readUsdc
    match balance with
    | none => pure settings.maxTradeUsd
    | some usdc => do
      let effective := max settings.maxTradeUsd (walletMaxTradeUsd usdc)
      saveRaisedCap settings.maxTradeUsd effective
      pure effective

/-! ### The entry -/

/-- `optimizeSwapFees` in auto mode, as far as the swap sees it: the slippage for a notional. -/
def optimizeSwapFees (notionalUsd : ℚ) : ℕ :=
  let notional := max 1 notionalUsd
  (if notional < 10 then 50 else if notional < 50 then 40 else if notional ≥ 200 then 25 else 30) + 5

/-- The preview finds no entry at all. -/
def QuotePreview.blocked (preview : QuotePreview) : Bool :=
  ¬ preview.tradable ∨ preview.blockTrade ∨ preview.entryQualityPoor

/-- The fill price is too far above the price the token was picked at. -/
def slipsAway (decisionPrice : ℚ) (fillPrice : Option ℚ) : Bool :=
  decisionPrice > 0 ∧
    fillPrice.any fun fill => fill > 0 ∧ (fill - decisionPrice) / decisionPrice * 100 > 35 / 100

/-- The costs of the entry eat up what a take-profit would leave. -/
def QuotePreview.tooCostly (preview : QuotePreview) (tpTarget decisionPrice : ℚ) : Bool :=
  preview.minMoveToBreakEvenPct.getD 0 > tpTarget * (9 / 10) ∨
    preview.roundTripSpreadBps.getD 0 < -50 ∨ slipsAway decisionPrice preview.jupiterBuyPrice

/-- A log line whose failure is ignored. -/
def logTrading : Call Unit := recover (await .appendTradingLog) fun _ => pure ()

def recordFill (refreshed : Config) (request : SwapRequest) : Call Unit :=
  if refreshed.botRunId.isSome then await (.createExecutionEvent request) else pure ()

/-- What follows a filled swap: the counters that were read, with this BUY added. -/
def settleBuy (refreshed : Config) (request : SwapRequest) : Call Unit := do
  let now ← await .currentTime
  let _ ← update (.recordTrade now (refreshed.tradesToday + 1)
    (refreshed.volumeTodayUsd + request.amount))
  recordFill refreshed request
  logTrading

/-- Whether the swap was filled, as far as the tick is told. -/
def trySwap (request : SwapRequest) : Call Bool :=
  recover (do
    let _ ← await (.executeJupiterSwap request)
    pure true) fun _ => pure false

/-- The switches are read again right before the swap. -/
def executeBuy (refreshed : Config) (request : SwapRequest) : Call Unit := do
  let live ← await .findSwitches
  if ¬ live.enabled ∨ live.emergencyStop then pure ()
  else do
    let filled ← trySwap request
    if filled then settleBuy refreshed request else pure ()

def buyRequest (pick : TradeSuggestion) (dynamicSize : ℚ) : SwapRequest where
  binanceSymbol := pick.binanceSymbol
  amount := dynamicSize
  slippageBps := optimizeSwapFees dynamicSize

def enter (refreshed : Config) (pick : TradeSuggestion) (dynamicSize : ℚ) : Call Unit := do
  let preview ← await (.previewJupiterSwap (buyRequest pick dynamicSize))
  if preview.blocked then logTrading
  else do
    let tpTarget ← await .takeProfitPct
    if preview.tooCostly tpTarget pick.usdPrice then pure ()
    else executeBuy refreshed (buyRequest pick dynamicSize)

/-! ### The tick -/

/-- `pair.replace(/\/USDT$/i, '').toUpperCase()`. -/
def baseOf (pair : String) : String :=
  let upper := pair.toUpper
  if upper.endsWith "/USDT" then (upper.dropEnd 5).toString else upper

def openBaseSymbols : Call (List String) := do
  let pairs ← await .findOpenPairs
  pure ((pairs.map baseOf).filter (· ≠ ""))

def getStats : Call SuperMachineStats := do
  let trades ← await .findTrades
  pure (statsOf trades)

def riskSettings (settings : Settings) (maxTradeUsd : ℚ) (maxOpenPositions : ℕ) :
    SuperMachineSettings where
  maxTradeUsd := maxTradeUsd
  maxOpenPositions := maxOpenPositions
  minLiquidityUsd := settings.minLiquidityUsd
  minSignal := settings.minSignal
  watchSymbol := settings.watchSymbol

/-- The tick is stamped and published before anything is bought. -/
def publishTick (confidence : ℚ) (stats : SuperMachineStats) : Call Unit := do
  let now ← await .currentTime
  let _ ← update (.lastTickAt now)
  await (.emitTick confidence stats)

def actOn (refreshed : Config) (cap : ℚ) (stats : SuperMachineStats) (council : CouncilDecision)
    (decision : RiskDecision) : Call Unit :=
  match council.action, decision.pick with
  | .buy, some pick =>
    enter refreshed pick (calculateDynamicSize cap decision.confidence stats)
  | _, _ => pure ()

def scan (settings : Settings) (maxOpen : ℕ) (refreshed : Config) : Call Unit := do
  let cap ← effectiveMaxTrade settings
  let openCount ← await .countOpenPositions
  let openBases ← openBaseSymbols
  let stats ← getStats
  let evaluated ← councilEvaluate refreshed.userId (riskSettings settings cap maxOpen) openCount
    openBases
  publishTick evaluated.2.confidence stats
  actOn refreshed cap stats evaluated.1 evaluated.2

/-- The limits of the day and the cooldown. -/
def scanIfDue (settings : Settings) (maxOpen : ℕ) (refreshed : Config) : Call Unit :=
  if refreshed.tradesToday ≥ settings.maxDailyTrades then pure ()
  else if refreshed.volumeTodayUsd ≥ settings.maxDailyVolumeUsd then pure ()
  else do
    let now ← await .currentTime
    if (now : ℤ) - refreshed.lastTradeAt.getD 0 < settings.cooldown then pure ()
    else scan settings maxOpen refreshed

def tickUser (today : String) (row : Config) : Call Unit :=
  let settings := row.toSettings
  if ¬ settings.enabled ∨ settings.emergencyStop then pure ()
  else do
    let maxOpen ← effectiveMaxOpen settings
    let refreshed ← resetDailyCountersIfNeeded today row
    scanIfDue settings maxOpen refreshed

/-! ### Requests -/

/-- `runSuperMachineWatcher`, for the user. -/
def runWatcher (today : String) : Call Unit := do
  let found ← await .findRunning
  match found with
  | none => pure ()
  | some row => recover (tickUser today row) fun _ => pure ()

/-- The ticks of a day, and what else moves the USDC of the wallet. -/
inductive Request where
  | tick
  | moveUsdc (amount : ℚ)

def Request.call (today : String) : Request → Call Unit
  | tick => runWatcher today
  | moveUsdc amount => await (.moveUsdc amount)

/-- A machine that has bought nothing today, on which a list of requests is made. -/
def superMachine (today : String) (config : Config) (usdc : ℚ) (requests : List Request) :
    Async.System world Unit where
  moment := ⟨⟨config, usdc, []⟩, []⟩
  calls := requests.map (Request.call today)

/-! ### An environment -/

/-- A user who lets the machine scan all tokens. -/
def aliceConfig : Config where
  userId := "alice"
  enabled := true
  maxTradeUsd := 25
  maxOpenPositions := 3
  maxDailyTrades := 20
  maxDailyVolumeUsd := 500
  minLiquidityUsd := 100000
  minSignal := "rising"
  watchSymbol := none
  emergencyStop := false
  aggressiveMode := false
  lastTickAt := none
  lastTradeAt := none
  tradesToday := 0
  volumeTodayUsd := 0
  dayKey := none
  botRunId := none

/-- A token with a momentum score that the technical analyst would buy, in a market on which the
models have no view, with no closed trades and a risk gate without rules. -/
def trending (score : ℚ) : Outlook where
  suggestions := [⟨"WIF", "WIFUSDT", 1, 1, 2, 3, 1000000, 20000000, score, .strong⟩]
  market := ⟨1 / 2, 1 / 2, none, .trending⟩
  technical := ⟨⟨.buy, 9 / 10⟩, false, some (8 / 10)⟩
  trades := []
  gate := ⟨0, Orders.aliceDesk, Orders.Outlook.fate {}⟩

end GdslExchange.SuperMachine
