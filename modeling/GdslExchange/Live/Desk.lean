/-
This file models what the live bots of one user talk to: the bots in memory, the
exchange with the fills it has given each of them, and the rest of the application,
which answers whatever it likes.

An access to memory happens at once and is a turn of its own. The one that comes
right after an answer may be thought of as part of it, since an answer reaches its
caller at any time; two that the code makes without an await between them may be
separated here, so every interleaving of the code is one of these.
-/

import GdslExchange.Async.Program
import GdslExchange.Paper.Risk

namespace GdslExchange.Live

open Paper (AISignalResult)

/-! ### Bots -/

inductive Position where
  | none
  | long
deriving DecidableEq

/-- The fields of a `LiveBotInstance` that `start` is given. -/
structure BotSettings where
  pair : String
  symbol : String
  orderSizeUsdt : ℚ

/-- A `LiveBotInstance`, and whether its interval is set. -/
structure LiveBot where
  settings : BotSettings
  orderSizeUsdt : ℚ
  ticking : Bool
  position : Position
  baseQtyHeld : ℚ
  entryPrice : Option ℚ
  lastExecutionAt : Option ℕ
  sessionPeakEquity : ℚ
  drawdownHalted : Bool

/-- The bot that `start` makes. -/
def newBot (settings : BotSettings) (peak : ℚ) : LiveBot where
  settings := settings
  orderSizeUsdt := settings.orderSizeUsdt
  ticking := true
  position := .none
  baseQtyHeld := 0
  entryPrice := none
  lastExecutionAt := none
  sessionPeakEquity := peak
  drawdownHalted := false

def LiveBot.holds (bot : LiveBot) : Bool := bot.position = .long ∧ bot.baseQtyHeld > 0

/-! ### Orders -/

inductive Side where
  | buy
  | sell
deriving DecidableEq

/-- A market order: a BUY for an amount of quote, or a SELL of an amount of base. -/
structure Order where
  side : Side
  quantity : ℚ

/-- The base that an order of a bot was filled with. -/
structure Fill where
  bot : ℕ
  side : Side
  qty : ℚ

def Fill.signed (fill : Fill) : ℚ :=
  match fill.side with
  | .buy => fill.qty
  | .sell => -fill.qty

/-- What becomes of a market order; what is filled may be less than what was ordered. -/
inductive OrderFate where
  | rejected (message : String)
  | filled (qty : ℚ) (nonneg : 0 ≤ qty)

/-- A SELL is not filled with more than it offers. -/
def Order.filledBy (order : Order) (qty : ℚ) : ℚ :=
  match order.side with
  | .buy => qty
  | .sell => min qty order.quantity

/-! ### Answers -/

structure ExitPrefs where
  enabled : Bool
  takeProfitPct : ℚ
  stopLossPct : ℚ

/-- The fields of a `TradeAdvisory` that the bot looks at. -/
structure Advisory where
  allow : Bool
  caution : Bool
  recommendedSizeUsdt : ℚ

/-- How a tick starts: with a position to look after, as the first one, or neither. -/
inductive TickStart where
  | holding
  | first
  | later
deriving DecidableEq

inductive DrawdownVerdict where
  | protect
  | halted
  | fine
deriving DecidableEq

/-- What the equity of a tick comes to. -/
structure Observation where
  capitalUsd : ℚ
  verdict : DrawdownVerdict

/-- The memory of a bot, and the time. -/
structure BotReading where
  bot : LiveBot
  now : ℕ

inductive LogKind where
  | signal
  | exec
  | risk
  | system
  | filter
  | validationFailed
  | attempt
  | executionFailed
  | executionSuccess
deriving DecidableEq

/-! ### Operations -/

/-- Every bot there has been, the one that `bots` has, whether the user is in `firstTickDone`, and
the fills. -/
structure Desk where
  bots : List LiveBot
  running : Option ℕ
  firstTickDone : Bool
  fills : List Fill

inductive Op where
  | isRunning
  | installBot (settings : BotSettings) (peak : ℚ)
  | fire (bot : ℕ)
  | settle (bot : ℕ)
  | clearTimer
  | removeBot
  | emergencyRemove (bot : ℕ)
  | readBot (bot : ℕ)
  | openTick (bot : ℕ)
  | claimFirstTick (bot : ℕ)
  | beginProbe (bot : ℕ)
  | overwriteSize (bot : ℕ) (size : ℚ)
  | restoreSize (bot : ℕ) (size : ℚ)
  | reduceSize (bot : ℕ) (size : ℚ)
  | observeEquity (bot : ℕ) (currentEquity : ℚ)
  | setLong (bot : ℕ) (qty price : ℚ)
  | stampExecution (bot : ℕ)
  | setFlat (bot : ℕ)
  | placeOrder (bot : ℕ) (order : Order)
  | fetchPrice (symbol : String)
  | findPortfolio
  | updatePortfolio (pnl : ℚ)
  | appendTradingLog (kind : LogKind) (message : String)
  | getCexExitSettings
  | fetchBinanceUsdtBalance
  | evaluateTradeIntent (symbol : String) (sizeUsdt accountEquityUsdt : ℚ)
  | computeAISignal (symbol : String)
  | findClosedPnls
  | findActiveSession
  | countOrdersSince (startedAt : ℕ)
  | persistStop (reason : String)
  | currentTime

@[reducible] def Result : Op → Type
  | .isRunning => Bool
  | .installBot _ _ => ℕ
  | .fire _ => Option BotSettings
  | .settle _ => Unit
  | .clearTimer => Option (ℕ × LiveBot)
  | .removeBot => Unit
  | .emergencyRemove _ => Unit
  | .readBot _ => BotReading
  | .openTick _ => TickStart
  | .claimFirstTick _ => Bool
  | .beginProbe _ => Option ℚ
  | .overwriteSize _ _ => ℚ
  | .restoreSize _ _ => Unit
  | .reduceSize _ _ => Unit
  | .observeEquity _ _ => Observation
  | .setLong _ _ _ => Unit
  | .stampExecution _ => Unit
  | .setFlat _ => Unit
  | .placeOrder _ _ => ℚ
  | .fetchPrice _ => Option ℚ
  | .findPortfolio => Option ℚ
  | .updatePortfolio _ => Unit
  | .appendTradingLog _ _ => Unit
  | .getCexExitSettings => ExitPrefs
  | .fetchBinanceUsdtBalance => Option ℚ
  | .evaluateTradeIntent _ _ _ => Advisory
  | .computeAISignal _ => Option AISignalResult
  | .findClosedPnls => List ℚ
  | .findActiveSession => Option ℕ
  | .countOrdersSince _ => ℕ
  | .persistStop _ => Unit
  | .currentTime => ℕ

/-- Memory is there, at a time where one is stamped or read; an order is filled or rejected; a
price or a balance may be missing; and everything else answers or fails. -/
@[reducible] def Fate : Op → Type
  | .isRunning => Unit
  | .installBot _ _ => Unit
  | .fire _ => Unit
  | .settle _ => Unit
  | .clearTimer => Unit
  | .removeBot => Unit
  | .emergencyRemove _ => Unit
  | .readBot _ => ℕ
  | .openTick _ => Unit
  | .claimFirstTick _ => Unit
  | .beginProbe _ => Unit
  | .overwriteSize _ _ => Unit
  | .restoreSize _ _ => Unit
  | .reduceSize _ _ => Unit
  | .observeEquity _ _ => Unit
  | .setLong _ _ _ => Unit
  | .stampExecution _ => ℕ
  | .setFlat _ => ℕ
  | .placeOrder _ _ => OrderFate
  | .fetchPrice _ => Option ℚ
  | .fetchBinanceUsdtBalance => Option ℚ
  | .currentTime => ℕ
  | op => Except String (Result op)

/-! ### Effects -/

/-- `STARTUP` orders are for at most five USDT. -/
def probeQuote (orderSizeUsdt : ℚ) : ℚ := min orderSizeUsdt 5

/-- The order size of the probe, if it is not under one USDT. -/
def LiveBot.probed (bot : LiveBot) : LiveBot :=
  if probeQuote bot.orderSizeUsdt < 1 then bot
  else { bot with orderSizeUsdt := probeQuote bot.orderSizeUsdt }

def liveMaxSessionDrawdownPct : ℚ := 15 / 100

/-- The capital and the drawdown of a bot that sees an equity. -/
def LiveBot.observation (bot : LiveBot) (currentEquity : ℚ) : Observation :=
  let sessionPeak := max bot.sessionPeakEquity currentEquity
  let peak := max sessionPeak Paper.tolerance
  { capitalUsd := max (max currentEquity bot.orderSizeUsdt) Paper.tolerance
    verdict :=
      if (peak - currentEquity) / peak ≥ liveMaxSessionDrawdownPct then .protect
      else if Paper.checkDrawdownExceeded currentEquity sessionPeak ∧ ¬ bot.drawdownHalted then
        .halted
      else .fine }

def LiveBot.observed (bot : LiveBot) (currentEquity : ℚ) : LiveBot :=
  { bot with
    sessionPeakEquity := max bot.sessionPeakEquity currentEquity
    drawdownHalted :=
      bot.drawdownHalted || (bot.observation currentEquity).verdict = .halted }

/-- What a tick finds that claims to be the first if nothing is held. -/
def LiveBot.claims (bot : LiveBot) (firstTickDone : Bool) : Bool :=
  ¬ firstTickDone ∧ bot.position = .none

def LiveBot.tickStart (bot : LiveBot) (firstTickDone : Bool) : TickStart :=
  if bot.holds ∧ bot.entryPrice.isSome then .holding
  else if bot.claims firstTickDone then .first
  else .later

def Desk.onBot (desk : Desk) (bot : ℕ) (change : LiveBot → LiveBot) : Desk :=
  { desk with bots := desk.bots.modify bot change }

/-- The base that a bot has bought and not sold. -/
def Desk.net (desk : Desk) (bot : ℕ) : ℚ :=
  ((desk.fills.filter fun fill => fill.bot = bot).map Fill.signed).sum

/-- What is done by a call that holds a bot. -/
def withBot {Answer : Type} (desk : Desk) (bot : ℕ) (next : LiveBot → Desk)
    (answer : LiveBot → Answer) : Desk × Except String Answer :=
  match desk.bots[bot]? with
  | some found => (next found, .ok (answer found))
  | none => (desk, .error "no such bot")

/-- The interval of the bot that runs is cleared, if one does. -/
def clearRunning (desk : Desk) : Desk × Except String (Option (ℕ × LiveBot)) :=
  match desk.running with
  | none => (desk, .ok none)
  | some bot => withBot desk bot
      (fun _ => desk.onBot bot fun found => { found with ticking := false })
      fun found => some (bot, found)

def sendOrder (bot : ℕ) (order : Order) (desk : Desk) : OrderFate → Desk × Except String ℚ
  | .rejected message => (desk, .error message)
  | .filled qty _ =>
    ({ desk with fills := desk.fills ++ [⟨bot, order.side, order.filledBy qty⟩] },
      .ok (order.filledBy qty))

def perform : (op : Op) → Fate op → Desk → Desk × Except String (Result op)
  | .isRunning, _, desk => (desk, .ok desk.running.isSome)
  | .installBot settings peak, _, desk =>
    ({ desk with
        bots := desk.bots ++ [newBot settings peak]
        running := some desk.bots.length }, .ok desk.bots.length)
  | .fire bot, _, desk =>
    withBot desk bot (fun _ => desk) fun found => if found.ticking then some found.settings else none
  | .settle _, _, desk => (desk, .ok ())
  | .clearTimer, _, desk => clearRunning desk
  | .removeBot, _, desk => ({ desk with running := none }, .ok ())
  | .emergencyRemove bot, _, desk =>
    withBot desk bot
      (fun _ => { desk.onBot bot fun found => { found with ticking := false } with
        running := none
        firstTickDone := false })
      fun _ => ()
  | .readBot bot, now, desk => withBot desk bot (fun _ => desk) fun found => ⟨found, now⟩
  | .openTick bot, _, desk =>
    withBot desk bot
      (fun found => { desk with
        firstTickDone := desk.firstTickDone || found.tickStart desk.firstTickDone = .first })
      fun found => found.tickStart desk.firstTickDone
  | .claimFirstTick bot, _, desk =>
    withBot desk bot
      (fun found => { desk with
        firstTickDone := desk.firstTickDone || found.claims desk.firstTickDone })
      fun found => found.claims desk.firstTickDone
  | .beginProbe bot, _, desk =>
    withBot desk bot (fun _ => desk.onBot bot LiveBot.probed) fun found =>
      if probeQuote found.orderSizeUsdt < 1 then none else some found.orderSizeUsdt
  | .overwriteSize bot size, _, desk =>
    withBot desk bot (fun _ => desk.onBot bot fun found => { found with orderSizeUsdt := size })
      LiveBot.orderSizeUsdt
  | .restoreSize bot size, _, desk =>
    withBot desk bot (fun _ => desk.onBot bot fun found => { found with orderSizeUsdt := size })
      fun _ => ()
  | .reduceSize bot size, _, desk =>
    withBot desk bot (fun _ => desk.onBot bot fun found => { found with orderSizeUsdt := size })
      fun _ => ()
  | .observeEquity bot currentEquity, _, desk =>
    withBot desk bot (fun _ => desk.onBot bot (·.observed currentEquity))
      (·.observation currentEquity)
  | .setLong bot qty price, _, desk =>
    withBot desk bot
      (fun _ => desk.onBot bot fun found =>
        { found with position := .long, baseQtyHeld := qty, entryPrice := some price })
      fun _ => ()
  | .stampExecution bot, now, desk =>
    withBot desk bot (fun _ => desk.onBot bot fun found => { found with lastExecutionAt := some now })
      fun _ => ()
  | .setFlat bot, now, desk =>
    withBot desk bot
      (fun _ => desk.onBot bot fun found =>
        { found with
          position := .none
          baseQtyHeld := 0
          entryPrice := none
          lastExecutionAt := some now })
      fun _ => ()
  | .placeOrder bot order, fate, desk => sendOrder bot order desk fate
  | .fetchPrice _, price, desk => (desk, .ok price)
  | .fetchBinanceUsdtBalance, balance, desk => (desk, .ok balance)
  | .currentTime, now, desk => (desk, .ok now)
  | .findPortfolio, answer, desk => (desk, answer)
  | .updatePortfolio _, answer, desk => (desk, answer)
  | .appendTradingLog _ _, answer, desk => (desk, answer)
  | .getCexExitSettings, answer, desk => (desk, answer)
  | .evaluateTradeIntent _ _ _, answer, desk => (desk, answer)
  | .computeAISignal _, answer, desk => (desk, answer)
  | .findClosedPnls, answer, desk => (desk, answer)
  | .findActiveSession, answer, desk => (desk, answer)
  | .countOrdersSince _, answer, desk => (desk, answer)
  | .persistStop _, answer, desk => (desk, answer)

/-- The outside world of the live bot. -/
abbrev venue : Async.Service where
  State := Desk
  Op := Op
  Result := Result
  Failure := String
  Fate := Fate
  perform := perform

abbrev Call (Value : Type) := Async.Program venue Value

def await (op : Op) : Call (Result op) := @Async.Program.perform venue op

end GdslExchange.Live
