/-
This file models the Jupiter autopilot: its settings, the time of each user's last BUY,
the watcher that buys for the users who enabled it, and the positions they have.

A BUY is submitted in one turn and ends in a later one. Until it ends, and for good if it
is reported as failed after it has landed, it is pending. Time passes and the rest of the
application opens and closes positions at any moment.
-/

import GdslExchange.Jupiter.Book

namespace GdslExchange.JupiterAutopilot

open Jupiter (SwapRequest)

/-! ### Settings -/

inductive MinSignal where
  | rising
  | strong
deriving DecidableEq

inductive RecurringInterval where
  | daily
  | weekly
deriving DecidableEq

/-- `JupiterAutopilotSettings`. -/
structure Settings where
  enabled : Bool
  maxBuyUsd : ℚ
  minLiquidityUsd : ℚ
  minSignal : MinSignal
  maxOpenPositions : ℚ
  recurringInterval : Option RecurringInterval
  watchSymbol : Option String

def Settings.defaults : Settings where
  enabled := false
  maxBuyUsd := 25
  minLiquidityUsd := 150000
  minSignal := .rising
  maxOpenPositions := 1
  recurringInterval := none
  watchSymbol := none

/-- A `Partial` of the settings: a field that may be null is there with or without a value. -/
structure RawSettings where
  enabled : Option Bool := none
  maxBuyUsd : Option ℚ := none
  minLiquidityUsd : Option ℚ := none
  minSignal : Option MinSignal := none
  maxOpenPositions : Option ℚ := none
  recurringInterval : Option (Option RecurringInterval) := none
  watchSymbol : Option (Option String) := none

def clamp (n low high : ℚ) : ℚ := min high (max low n)

/-- `toUpperCase().replace(/[^A-Z0-9]/g, '')`. -/
def normalize (symbol : String) : String :=
  String.ofList (symbol.toUpper.toList.filter fun letter => letter.isUpper || letter.isDigit)

/-- The settings that `setJupiterAutopilotSettings` stores. -/
def Settings.next (prev : Settings) (raw : RawSettings) : Settings where
  enabled := raw.enabled.getD prev.enabled
  maxBuyUsd := clamp (raw.maxBuyUsd.getD prev.maxBuyUsd) 5 100
  minLiquidityUsd := clamp (raw.minLiquidityUsd.getD prev.minLiquidityUsd) 50000 5000000
  minSignal := if raw.minSignal = some .strong then .strong else .rising
  maxOpenPositions :=
    clamp (Numeric.round (raw.maxOpenPositions.getD prev.maxOpenPositions)) 1 3
  recurringInterval := raw.recurringInterval.getD prev.recurringInterval
  watchSymbol :=
    match raw.watchSymbol with
    | some given => (given.filter (· ≠ "")).map normalize
    | none => prev.watchSymbol

def buyCooldownMs : ℕ := 45 * 60000

def logThrottleMs : ℕ := 10 * 60000

def Settings.intervalMs (settings : Settings) : ℕ :=
  match settings.recurringInterval with
  | some .weekly => 7 * 24 * 60 * 60000
  | some .daily => 24 * 60 * 60000
  | none => buyCooldownMs

/-! ### The desk -/

/-- The memory of the service, the clock, the pairs of the OPEN rows of each user, the symbols of
his BUYs that were submitted and have no row, and the times of his submissions. -/
structure Desk where
  settingsByUser : String → Option Settings
  enabledUsers : List String
  lastBuyAtByUser : String → Option ℕ
  lastRunLogAtByUser : String → Option ℕ
  now : ℕ
  openPairs : String → List String
  pending : String → List String
  submissions : String → List ℕ

/-- The desk that nobody has used yet. -/
def Desk.fresh (now : ℕ) : Desk where
  settingsByUser _ := none
  enabledUsers := []
  lastBuyAtByUser _ := none
  lastRunLogAtByUser _ := none
  now := now
  openPairs _ := []
  pending _ := []
  submissions _ := []

/-- How many positions a user has, the BUYs that have no row included. -/
def Desk.positions (desk : Desk) (userId : String) : ℕ :=
  (desk.openPairs userId).length + (desk.pending userId).length

def getJupiterAutopilotSettings (userId : String) (desk : Desk) : Settings :=
  (desk.settingsByUser userId).getD .defaults

def setJupiterAutopilotSettings (userId : String) (raw : RawSettings) (desk : Desk) :
    Desk × Settings :=
  let next := (getJupiterAutopilotSettings userId desk).next raw
  ({ desk with
    settingsByUser := Function.update desk.settingsByUser userId (some next)
    enabledUsers :=
      if next.enabled then
        if userId ∈ desk.enabledUsers then desk.enabledUsers else desk.enabledUsers ++ [userId]
      else desk.enabledUsers.erase userId }, next)

/-- What a pass reads of a user before its first await. -/
structure Reading where
  settings : Settings
  lastBuy : ℕ
  now : ℕ

def Desk.read (desk : Desk) (userId : String) : Reading where
  settings := getJupiterAutopilotSettings userId desk
  lastBuy := (desk.lastBuyAtByUser userId).getD 0
  now := desk.now

/-- The throttled log line of a BUY that was skipped. -/
def Desk.logSkip (desk : Desk) (userId : String) : Desk :=
  if (desk.lastRunLogAtByUser userId).getD 0 + logThrottleMs < desk.now then
    { desk with lastRunLogAtByUser := Function.update desk.lastRunLogAtByUser userId desk.now }
  else desk

/-- A BUY goes out. -/
def Desk.submit (desk : Desk) (userId symbol : String) : Desk :=
  { desk with
    pending := Function.update desk.pending userId (symbol :: desk.pending userId)
    submissions := Function.update desk.submissions userId (desk.now :: desk.submissions userId) }

/-- A BUY is no longer pending. -/
def Desk.settle (desk : Desk) (userId symbol : String) : Desk :=
  { desk with
    pending := Function.update desk.pending userId ((desk.pending userId).erase symbol) }

/-- A BUY is booked, in the row of its pair if there is one. -/
def Desk.book (desk : Desk) (userId pair : String) : Desk :=
  if pair ∈ desk.openPairs userId then desk
  else { desk with
    openPairs := Function.update desk.openPairs userId (desk.openPairs userId ++ [pair]) }

/-! ### Operations -/

inductive Signal where
  | strong
  | rising
  | watch
deriving DecidableEq

/-- The fields of a `TradeSuggestion` that the autopilot reads. -/
structure TradeSuggestion where
  baseSymbol : String
  binanceSymbol : String
  liquidityUsd : ℚ
  signal : Signal

/-- The fields of a preview that the autopilot reads. -/
structure Preview where
  tradable : Bool
  blockTrade : Bool
  entryQuality : Option String

inductive Op where
  | setJupiterAutopilotSettings (userId : String) (raw : RawSettings)
  | isJupiterSwapRateLimited
  | enabledUsers
  | readUser (userId : String)
  | countOpenPositions (userId : String)
  | getJupiterTradeSuggestions (limit : ℕ)
  | openBaseSymbols (userId : String)
  | previewJupiterSwap (userId : String) (request : SwapRequest)
  | logSkip (userId : String)
  | prepareSwap (userId : String) (request : SwapRequest)
  | submitSwap (userId : String) (request : SwapRequest)
  | finishSwap (userId : String) (request : SwapRequest)
  | setLastBuyAt (userId : String)
  | elapse (ms : ℕ)
  | tradeElsewhere (userId : String) (pairs : List String)

abbrev Result : Op → Type
  | .setJupiterAutopilotSettings _ _ => Settings
  | .isJupiterSwapRateLimited => Bool
  | .enabledUsers => List String
  | .readUser _ => Reading
  | .countOpenPositions _ => ℕ
  | .getJupiterTradeSuggestions _ => List TradeSuggestion
  | .openBaseSymbols _ => List String
  | .previewJupiterSwap _ _ => Preview
  | .finishSwap _ _ => String
  | _ => Unit

/-- What becomes of a submitted BUY: it does not land, it is booked, or it lands and is lost. -/
inductive SwapFate where
  | failed (message : String)
  | booked (pair txSignature : String)
  | landedThenFailed (message : String)

/-- A read of the database fails with a message, if it does. -/
abbrev Fate : Op → Type
  | .isJupiterSwapRateLimited => Bool
  | .countOpenPositions _ => Option String
  | .getJupiterTradeSuggestions _ => Except String (List TradeSuggestion)
  | .openBaseSymbols _ => Option String
  | .previewJupiterSwap _ _ => Except String Preview
  | .prepareSwap _ _ => Except String Unit
  | .finishSwap _ _ => SwapFate
  | _ => Unit

/-- `pair.replace(/\/USDT$/i, '').toUpperCase()`. -/
def baseOf (pair : String) : String :=
  let upper := pair.toUpper
  if upper.endsWith "/USDT" then (upper.dropEnd 5).toString else upper

def endSwap (userId symbol : String) (desk : Desk) : SwapFate → Desk × Except String String
  | .failed message => (desk.settle userId symbol, .error message)
  | .booked pair txSignature => ((desk.settle userId symbol).book userId pair, .ok txSignature)
  | .landedThenFailed message => (desk, .error message)

/-- An answer from the database, unless the read fails. -/
def answerUnless {Value : Type} (failure : Option String) (value : Value) : Except String Value :=
  match failure with
  | some message => .error message
  | none => .ok value

def perform : (op : Op) → Fate op → Desk → Desk × Except String (Result op)
  | .setJupiterAutopilotSettings userId raw, _, desk =>
    let stored := JupiterAutopilot.setJupiterAutopilotSettings userId raw desk
    (stored.1, .ok stored.2)
  | .isJupiterSwapRateLimited, limited, desk => (desk, .ok limited)
  | .enabledUsers, _, desk => (desk, .ok desk.enabledUsers)
  | .readUser userId, _, desk => (desk, .ok (desk.read userId))
  | .countOpenPositions userId, failure, desk =>
    (desk, answerUnless failure (desk.openPairs userId).length)
  | .getJupiterTradeSuggestions _, answer, desk => (desk, answer)
  | .openBaseSymbols userId, failure, desk =>
    (desk, answerUnless failure (((desk.openPairs userId).map baseOf).filter (· ≠ "")))
  | .previewJupiterSwap _ _, answer, desk => (desk, answer)
  | .logSkip userId, _, desk => (desk.logSkip userId, .ok ())
  | .prepareSwap _ _, answer, desk => (desk, answer)
  | .submitSwap userId request, _, desk => (desk.submit userId request.binanceSymbol, .ok ())
  | .finishSwap userId request, fate, desk => endSwap userId request.binanceSymbol desk fate
  | .setLastBuyAt userId, _, desk =>
    ({ desk with
      lastBuyAtByUser := Function.update desk.lastBuyAtByUser userId (some desk.now) }, .ok ())
  | .elapse ms, _, desk => ({ desk with now := desk.now + ms }, .ok ())
  | .tradeElsewhere userId pairs, _, desk =>
    ({ desk with openPairs := Function.update desk.openPairs userId pairs }, .ok ())

/-- The outside world of the autopilot. -/
abbrev venue : Async.Service where
  State := Desk
  Op := Op
  Result := Result
  Failure := String
  Fate := Fate
  perform := perform

abbrev Call (Value : Type) := Async.Program venue Value

def await (op : Op) : Call (Result op) := @Async.Program.perform venue op

/-! ### The watcher -/

structure Environment where
  dexServerAutoExit : Bool
  solanaWalletEnabled : Bool
  jupiterConfigured : Bool

def Signal.rank : Signal → ℕ
  | strong => 2
  | rising => 1
  | watch => 0

def pickSuggestion (items : List TradeSuggestion) (settings : Settings)
    (openBases : List String) : Option TradeSuggestion :=
  let minRank := if settings.minSignal = .strong then 2 else 1
  items.find? fun item =>
    item.signal.rank ≥ minRank ∧ item.liquidityUsd ≥ settings.minLiquidityUsd ∧
      item.baseSymbol.toUpper ∉ openBases

/-- The watched symbol of a recurring BUY. -/
def Settings.watched (settings : Settings) : Option String :=
  if settings.recurringInterval.isSome then
    (settings.watchSymbol.filter (· ≠ "")).map fun symbol =>
      if (symbol.splitOn "USDT").length > 1 then symbol else symbol ++ "USDT"
  else none

def pickSymbol (userId : String) (settings : Settings) : Call (Option String) :=
  match settings.watched with
  | some symbol => pure (some symbol)
  | none => do
    let items ← await (.getJupiterTradeSuggestions 12)
    let openBases ← await (.openBaseSymbols userId)
    pure (((pickSuggestion items settings openBases).map TradeSuggestion.binanceSymbol).filter
      (· ≠ ""))

def Settings.swap (settings : Settings) (symbol : String) : SwapRequest where
  side := .buy
  binanceSymbol := symbol
  amount := settings.maxBuyUsd
  slippageBps := some 100
  spendAsset := some .usdc

/-- `executeJupiterSwap`, and the time of the last BUY. -/
def executeBuy (userId : String) (request : SwapRequest) : Call Unit := do
  await (.prepareSwap userId request)
  await (.submitSwap userId request)
  let _ ← await (.finishSwap userId request)
  await (.setLastBuyAt userId)

def buySymbol (userId : String) (settings : Settings) (symbol : String) : Call Unit := do
  let preview ← await (.previewJupiterSwap userId (settings.swap symbol))
  if !preview.tradable || preview.blockTrade || preview.entryQuality = some "poor" then
    await (.logSkip userId)
  else executeBuy userId (settings.swap symbol)

def tryAutopilotBuy (userId : String) : Call Unit := do
  let reading ← await (.readUser userId)
  if !reading.settings.enabled then pure ()
  else if reading.now < reading.lastBuy + reading.settings.intervalMs then pure ()
  else do
    let openCount ← await (.countOpenPositions userId)
    if openCount ≥ reading.settings.maxOpenPositions then pure ()
    else do
      let symbol? ← pickSymbol userId reading.settings
      match symbol? with
      | none => pure ()
      | some symbol => buySymbol userId reading.settings symbol

def runJupiterAutopilotWatcher (env : Environment) : Call Unit :=
  if !env.dexServerAutoExit || !env.solanaWalletEnabled || !env.jupiterConfigured then pure ()
  else do
    let limited ← await .isJupiterSwapRateLimited
    if limited then pure ()
    else do
      let users ← await .enabledUsers
      Async.Program.forEach
        (fun userId => (tryAutopilotBuy userId).recover fun _ => pure ()) users

/-- What happens: a setting is changed, a pass starts, time passes, or the rest of the
application leaves a user with other positions. -/
inductive Request where
  | set (userId : String) (raw : RawSettings)
  | pass
  | elapse (ms : ℕ)
  | trade (userId : String) (pairs : List String)

def Request.call (env : Environment) : Request → Call Unit
  | set userId raw => do
    let _ ← await (.setJupiterAutopilotSettings userId raw)
  | pass => runJupiterAutopilotWatcher env
  | elapse ms => await (.elapse ms)
  | trade userId pairs => await (.tradeElsewhere userId pairs)

/-- A server that starts at some time, and what happens there. -/
def autopilotSystem (env : Environment) (now : ℕ) (requests : List Request) :
    Async.System venue Unit where
  moment := ⟨.fresh now, []⟩
  calls := requests.map (Request.call env)

end GdslExchange.JupiterAutopilot
