/-
This file models what the Jupiter Super Machine of one user talks to: its config
row, the USDC of the wallet and the BUYs made from it, and the market, the models
and the agents, which answer whatever they like.

The risk gate is asked through its own code, on the tables it finds when it is
asked; those it shares with the rest of the application.
-/

import GdslExchange.Orders.RiskGate
import GdslExchange.SuperMachine.Policy
import GdslExchange.SuperMachine.Sizing

namespace GdslExchange.SuperMachine

open Async (Delivery)
open Orders (RiskVerdict)

/-! ### The config row -/

inductive Signal where
  | strong
  | rising
  | watch
deriving DecidableEq

/-- A row of `JupiterSuperMachineConfig`, as `setSuperMachineSettings` and the ticks write it. -/
structure Config where
  userId : String
  enabled : Bool
  maxTradeUsd : ℚ
  maxOpenPositions : ℕ
  maxDailyTrades : ℕ
  maxDailyVolumeUsd : ℚ
  minLiquidityUsd : ℚ
  minSignal : String
  watchSymbol : Option String
  emergencyStop : Bool
  aggressiveMode : Bool
  lastTickAt : Option ℕ
  lastTradeAt : Option ℕ
  tradesToday : ℕ
  volumeTodayUsd : ℚ
  dayKey : Option String
  botRunId : Option String

/-- The `data` of the updates of a tick. -/
inductive ConfigUpdate where
  | maxOpenPositions (value : ℕ)
  | resetCounters (dayKey : String)
  | maxTradeUsd (value : ℚ)
  | lastTickAt (now : ℕ)
  | recordTrade (now tradesToday : ℕ) (volumeTodayUsd : ℚ)

def ConfigUpdate.apply : ConfigUpdate → Config → Config
  | maxOpenPositions value, row => { row with maxOpenPositions := value }
  | resetCounters dayKey, row =>
    { row with dayKey := some dayKey, tradesToday := 0, volumeTodayUsd := 0 }
  | maxTradeUsd value, row => { row with maxTradeUsd := value }
  | lastTickAt now, row => { row with lastTickAt := some now }
  | recordTrade now tradesToday volumeTodayUsd, row =>
    { row with
      lastTradeAt := some now
      tradesToday := tradesToday
      volumeTodayUsd := volumeTodayUsd }

/-- `JupiterSuperMachineSettings`, what `toSettings` makes of a row. -/
structure Settings where
  enabled : Bool
  maxTradeUsd : ℚ
  maxOpenPositions : ℕ
  maxDailyTrades : ℕ
  maxDailyVolumeUsd : ℚ
  minLiquidityUsd : ℚ
  minSignal : Signal
  watchSymbol : Option String
  emergencyStop : Bool
  aggressiveMode : Bool

def Config.toSettings (row : Config) : Settings where
  enabled := row.enabled
  maxTradeUsd := row.maxTradeUsd
  maxOpenPositions := row.maxOpenPositions
  maxDailyTrades := row.maxDailyTrades
  maxDailyVolumeUsd := row.maxDailyVolumeUsd
  minLiquidityUsd := row.minLiquidityUsd
  minSignal := if row.minSignal = "strong" then .strong else .rising
  watchSymbol := (row.watchSymbol.filter (· ≠ "")).map String.toUpper
  emergencyStop := row.emergencyStop
  aggressiveMode := row.aggressiveMode

/-! ### Answers -/

/-- The cached tick of the quant agent. -/
structure QuantPayload where
  spreadBps : ℚ
  obi : Option ℚ

/-- The cached sentiment of the oracle agent. -/
structure OraclePayload where
  sentimentScore : ℚ
  confidence : ℚ

structure TradeSuggestion where
  baseSymbol : String
  binanceSymbol : String
  usdPrice : ℚ
  change5m : ℚ
  change1h : ℚ
  change24h : ℚ
  liquidityUsd : ℚ
  volume24hUsd : ℚ
  score : ℚ
  signal : Signal

/-- A line of the signal board. -/
structure TradeSignal where
  symbol : String
  baseSymbol : String
  isBuy : Bool

inductive Vote where
  | buy
  | hold
  | avoid
deriving DecidableEq

structure AgentVote where
  vote : Vote
  confidence : ℚ

/-- The vote of the technical analyst, whether its reason is that candle data is unavailable, and
the strength of the trend. -/
structure TechnicalSnapshot where
  toVote : AgentVote
  unavailable : Bool
  trendStrength : Option ℚ

inductive CouncilAgentId where
  | momentum
  | sentiment
  | technical
  | risk
  | llm
  | orderbook
  | volatility
deriving DecidableEq

/-- The result of `rollingWinRate`. -/
structure WinRate where
  pct : Option ℚ
  samples : ℕ

/-- The fields of a `JupiterSwapRequest` for a BUY that spends USDC. -/
structure SwapRequest where
  binanceSymbol : String
  amount : ℚ
  slippageBps : ℕ

/-- The fields of a `JupiterQuotePreview` that a tick looks at. -/
structure QuotePreview where
  tradable : Bool
  blockTrade : Bool
  entryQualityPoor : Bool
  minMoveToBreakEvenPct : Option ℚ
  roundTripSpreadBps : Option ℚ
  jupiterBuyPrice : Option ℚ

/-- The time zone, the tables and the outside world that the risk gate runs in. -/
structure GateRun where
  zone : ℤ
  desk : Orders.Desk
  fates : Orders.Fates

/-! ### Operations -/

/-- The row, the USDC of the wallet, and the sizes of the BUYs that were executed. -/
structure Machine where
  config : Config
  usdc : ℚ
  bought : List ℚ

inductive Op where
  | findRunning
  | findSwitches
  | updateConfig (data : ConfigUpdate)
  | getSolanaBalances
  | countOpenPositions
  | findOpenPairs
  | findTrades
  | marketTick
  | sentimentUpdate
  | getJupiterTradeSuggestions
  | getJupiterTradeSignals
  | readMarket (symbol : String)
  | mtfAligned (symbol : String)
  | findClosedPnls (symbol : String)
  | checkRisk (userId : String) (orderSizeUsdt : ℚ)
  | createSignal (symbol : String) (direction : MetaAction)
  | agentAccuracy
  | rollingWinRate
  | technicalVote (symbol : String)
  | llmStrategistVote (symbol : String)
  | emitTick (confidence : ℚ) (stats : SuperMachineStats)
  | previewJupiterSwap (request : SwapRequest)
  | takeProfitPct
  | executeJupiterSwap (request : SwapRequest)
  | createExecutionEvent (request : SwapRequest)
  | appendTradingLog
  | currentTime
  | moveUsdc (amount : ℚ)

@[reducible] def Result : Op → Type
  | .findRunning => Option Config
  | .findSwitches => Config
  | .updateConfig _ => Config
  | .getSolanaBalances => ℚ
  | .countOpenPositions => ℕ
  | .findOpenPairs => List String
  | .findTrades => List TradeRow
  | .marketTick => Option QuantPayload
  | .sentimentUpdate => Option OraclePayload
  | .getJupiterTradeSuggestions => List TradeSuggestion
  | .getJupiterTradeSignals => List TradeSignal
  | .readMarket _ => MarketReading
  | .mtfAligned _ => Bool
  | .findClosedPnls _ => List ℚ
  | .checkRisk _ _ => RiskVerdict
  | .createSignal _ _ => Unit
  | .agentAccuracy => CouncilAgentId → Option ℚ
  | .rollingWinRate => WinRate
  | .technicalVote _ => TechnicalSnapshot
  | .llmStrategistVote _ => AgentVote
  | .emitTick _ _ => Unit
  | .previewJupiterSwap _ => QuotePreview
  | .takeProfitPct => ℚ
  | .executeJupiterSwap _ => Unit
  | .createExecutionEvent _ => Unit
  | .appendTradingLog => Unit
  | .currentTime => ℕ
  | .moveUsdc _ => Unit

/-- The row and the wallet are stores, the gate runs, what is kept in memory is there, and
everything else answers or fails. -/
@[reducible] def Fate : Op → Type
  | .findRunning => Delivery
  | .findSwitches => Delivery
  | .updateConfig _ => Delivery
  | .getSolanaBalances => Delivery
  | .executeJupiterSwap _ => Delivery
  | .checkRisk _ _ => GateRun
  | .marketTick => Option QuantPayload
  | .sentimentUpdate => Option OraclePayload
  | .mtfAligned _ => Bool
  | .emitTick _ _ => Unit
  | .takeProfitPct => ℚ
  | .currentTime => ℕ
  | .moveUsdc _ => Unit
  | op => Except String (Result op)

/-! ### Effects -/

/-- The swap spends USDC that must be there. -/
def executeSwap (request : SwapRequest) (delivery : Delivery) (machine : Machine) :
    Machine × Except String Unit :=
  if request.amount ≤ 0 then (machine, .error "amount must be positive")
  else if machine.usdc < request.amount then (machine, .error "Insufficient USDC")
  else delivery.write machine
    { machine with
      usdc := machine.usdc - request.amount
      bought := machine.bought ++ [request.amount] } ()

def GateRun.verdict (run : GateRun) (userId : String) (orderSizeUsdt : ℚ) :
    Except String RiskVerdict :=
  ((Orders.riskGateCheckRisk run.zone userId orderSizeUsdt).exec run.fates run.desk).2

def perform : (op : Op) → Fate op → Machine → Machine × Except String (Result op)
  | .findRunning, delivery, machine =>
    delivery.read machine
      (if machine.config.enabled ∧ ¬ machine.config.emergencyStop then some machine.config
        else none)
  | .findSwitches, delivery, machine => delivery.read machine machine.config
  | .updateConfig data, delivery, machine =>
    delivery.write machine { machine with config := data.apply machine.config }
      (data.apply machine.config)
  | .getSolanaBalances, delivery, machine => delivery.read machine machine.usdc
  | .executeJupiterSwap request, delivery, machine => executeSwap request delivery machine
  | .checkRisk userId orderSizeUsdt, run, machine => (machine, run.verdict userId orderSizeUsdt)
  | .marketTick, quant, machine => (machine, .ok quant)
  | .sentimentUpdate, oracle, machine => (machine, .ok oracle)
  | .mtfAligned _, aligned, machine => (machine, .ok aligned)
  | .emitTick _ _, _, machine => (machine, .ok ())
  | .takeProfitPct, target, machine => (machine, .ok target)
  | .currentTime, now, machine => (machine, .ok now)
  | .moveUsdc amount, _, machine => ({ machine with usdc := machine.usdc + amount }, .ok ())
  | .countOpenPositions, answer, machine => (machine, answer)
  | .findOpenPairs, answer, machine => (machine, answer)
  | .findTrades, answer, machine => (machine, answer)
  | .getJupiterTradeSuggestions, answer, machine => (machine, answer)
  | .getJupiterTradeSignals, answer, machine => (machine, answer)
  | .readMarket _, answer, machine => (machine, answer)
  | .findClosedPnls _, answer, machine => (machine, answer)
  | .createSignal _ _, answer, machine => (machine, answer)
  | .agentAccuracy, answer, machine => (machine, answer)
  | .rollingWinRate, answer, machine => (machine, answer)
  | .technicalVote _, answer, machine => (machine, answer)
  | .llmStrategistVote _, answer, machine => (machine, answer)
  | .previewJupiterSwap _, answer, machine => (machine, answer)
  | .createExecutionEvent _, answer, machine => (machine, answer)
  | .appendTradingLog, answer, machine => (machine, answer)

/-- The outside world of the Super Machine. -/
abbrev world : Async.Service where
  State := Machine
  Op := Op
  Result := Result
  Failure := String
  Fate := Fate
  perform := perform

abbrev Call (Value : Type) := Async.Program world Value

def await (op : Op) : Call (Result op) := @Async.Program.perform world op

/-- A swap is executed: there is something to spend, the wallet has it, and the swap lands. -/
def Executes (request : SwapRequest) (delivery : Delivery) (machine : Machine) : Prop :=
  0 < request.amount ∧ request.amount ≤ machine.usdc ∧ delivery.Applies

instance (request : SwapRequest) (delivery : Delivery) (machine : Machine) :
    Decidable (Executes request delivery machine) :=
  inferInstanceAs (Decidable (_ ∧ _ ∧ _))

theorem perform_executeJupiterSwap (request : SwapRequest) (delivery : Delivery)
    (machine : Machine) :
    (perform (.executeJupiterSwap request) delivery machine).1 =
      if Executes request delivery machine then
        { machine with
          usdc := machine.usdc - request.amount
          bought := machine.bought ++ [request.amount] }
      else machine := by
  dsimp only [perform, executeSwap, Delivery.write]
  unfold Executes
  split_ifs <;> grind

/-- What a world is like that answers everything and refuses nothing. -/
structure Outlook where
  suggestions : List TradeSuggestion
  market : MarketReading
  technical : TechnicalSnapshot
  trades : List TradeRow
  gate : GateRun

def Outlook.fate (outlook : Outlook) : (op : Op) → Fate op
  | .findRunning => .answered
  | .findSwitches => .answered
  | .updateConfig _ => .answered
  | .getSolanaBalances => .answered
  | .executeJupiterSwap _ => .answered
  | .checkRisk _ _ => outlook.gate
  | .marketTick => none
  | .sentimentUpdate => none
  | .mtfAligned _ => true
  | .emitTick _ _ => ()
  | .takeProfitPct => 5
  | .currentTime => 1000000
  | .moveUsdc _ => ()
  | .countOpenPositions => .ok 0
  | .findOpenPairs => .ok []
  | .findTrades => .ok outlook.trades
  | .getJupiterTradeSuggestions => .ok outlook.suggestions
  | .getJupiterTradeSignals => .ok []
  | .readMarket _ => .ok outlook.market
  | .findClosedPnls _ => .ok []
  | .createSignal _ _ => .ok ()
  | .agentAccuracy => .ok fun _ => none
  | .rollingWinRate => .ok ⟨none, 0⟩
  | .technicalVote _ => .ok outlook.technical
  | .llmStrategistVote _ => .ok ⟨.hold, 0⟩
  | .previewJupiterSwap _ => .ok ⟨true, false, false, none, none, none⟩
  | .createExecutionEvent _ => .ok ()
  | .appendTradingLog => .ok ()

end GdslExchange.SuperMachine
