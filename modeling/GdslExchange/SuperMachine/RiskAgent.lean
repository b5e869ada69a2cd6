/-
This file models the two agents that stand before a BUY of the Super Machine: the
meta-policy, which sizes it with the Kelly criterion and asks the risk gate, and the
risk analyst, which ranks the trending tokens and takes the first of the best three
that clears its gates.

The policy's action is a bias and not a gate here: of its decision, the analyst looks
at the probability, at the size, and at whether the risk gate has blocked it.
-/

import GdslExchange.SuperMachine.Machine
import Mathlib.Data.List.Sort

namespace GdslExchange.SuperMachine

open Async.Program
open Orders (RiskVerdict)

/-! ### The meta-policy -/

structure MetaDecision where
  action : MetaAction
  pUp : ℚ
  orderSizeUsdt : ℚ
  blocked : Option String

/-- The multi-timeframe gate, which only a BUY has to pass. -/
def multiTimeframe (symbol : String) : MetaAction → Call MetaAction
  | .buy => do
    let aligned ← await (.mtfAligned symbol)
    pure (if aligned then .buy else .hold)
  | other => pure other

/-- The Kelly-sized order, of a BUY. -/
def sizeOrder (symbol : String) (pUp equityUsdt : ℚ) : MetaAction → Call ℚ
  | .buy => do
    let pnls ← await (.findClosedPnls symbol)
    pure (computeOrderSize pUp equityUsdt pnls)
  | _ => pure 0

def askRiskGate (userId : String) (rawAction : MetaAction) (orderSizeUsdt : ℚ) :
    Call (Option String) :=
  if rawAction = .buy ∧ orderSizeUsdt > 0 then do
    let risk ← await (.checkRisk userId orderSizeUsdt)
    match risk with
    | .allowed => pure none
    | .denied reason => pure (some reason)
  else pure none

/-- `decide` of the meta-policy. -/
def decide (symbol userId : String) (equityUsdt : ℚ) : Call MetaDecision := do
  let reading ← await (.readMarket symbol)
  let rawAction ← multiTimeframe symbol reading.rawAction
  let orderSizeUsdt ← sizeOrder symbol reading.pUp equityUsdt rawAction
  let blocked ← askRiskGate userId rawAction orderSizeUsdt
  let action := if blocked.isSome then .hold else rawAction
  recover (await (.createSignal symbol action)) fun _ => pure ()
  pure ⟨action, reading.pUp, orderSizeUsdt, blocked⟩

/-! ### Scores -/

/-- The settings that the risk analyst is given. -/
structure SuperMachineSettings where
  maxTradeUsd : ℚ
  maxOpenPositions : ℕ
  minLiquidityUsd : ℚ
  minSignal : Signal
  watchSymbol : Option String

def signalRank : Signal → ℕ
  | .strong => 3
  | .rising => 2
  | .watch => 1

def calculateVolumeScore (suggestion : TradeSuggestion) : ℚ :=
  if suggestion.volume24hUsd > 10000000 then 1
  else if suggestion.volume24hUsd > 1000000 then 85 / 100
  else if suggestion.volume24hUsd > 500000 then 7 / 10
  else if suggestion.volume24hUsd > 100000 then 55 / 100
  else 4 / 10

def change1hStep (change1h : ℚ) : ℚ :=
  if change1h > 0 ∧ change1h < 8 then 1 / 10 else if change1h > 15 then -(1 / 10) else 0

def change24hStep (change24h : ℚ) : ℚ :=
  if change24h > 0 ∧ change24h < 20 then 5 / 100
  else if change24h > 50 then -(15 / 100)
  else if change24h < -20 then -(1 / 10)
  else 0

def calculateMomentumScore (suggestion : TradeSuggestion) (signals : List TradeSignal) : ℚ :=
  let matchingSignal := signals.find? fun line => line.symbol = suggestion.binanceSymbol
  let boost := if matchingSignal.any TradeSignal.isBuy then 15 / 100 else 0
  max 0 (min 1 (suggestion.score / 100 + boost + change1hStep suggestion.change1h +
    change24hStep suggestion.change24h))

def spreadStep (spreadBps : ℚ) : ℚ :=
  if spreadBps < 8 then 15 / 100
  else if spreadBps < 15 then 8 / 100
  else if spreadBps > 25 then -(1 / 10)
  else 0

def obiStep (obi : ℚ) : ℚ :=
  if obi > 2 / 10 then 12 / 100
  else if obi > 5 / 100 then 6 / 100
  else if obi < -(15 / 100) then -(1 / 10)
  else 0

def sentimentStep (oracle : OraclePayload) : ℚ :=
  if oracle.sentimentScore > 3 / 10 ∧ oracle.confidence > 4 / 10 then 1 / 10
  else if oracle.sentimentScore < -(2 / 10) ∧ oracle.confidence > 4 / 10 then -(8 / 100)
  else 0

def calculateEntryScore (quant : Option QuantPayload) (oracle : Option OraclePayload) : ℚ :=
  let spread := (quant.map fun tick => spreadStep tick.spreadBps).getD 0
  let book := ((quant.bind QuantPayload.obi).map obiStep).getD 0
  let news := (oracle.map sentimentStep).getD 0
  max 0 (min 1 (5 / 10 + spread + book + news))

/-- A token that is up too far too fast is not bought at any score. -/
def isOverextended (item : TradeSuggestion) : Bool :=
  item.change5m > 8 ∨ item.change1h > 20 ∨ item.change24h > 60

/-! ### The ranking -/

structure ScoredPick where
  pick : TradeSuggestion
  volumeScore : ℚ
  momentumScore : ℚ
  totalScore : ℚ
  isMajor : Bool

def trim (text : String) : String :=
  String.ofList
    ((text.toList.dropWhile Char.isWhitespace).reverse.dropWhile Char.isWhitespace).reverse

def isTier1Major (baseSymbol : String) : Bool :=
  (trim baseSymbol).toUpper ∈ ["SOL", "BTC", "ETH", "WBTC", "WETH"]

/-- `compareTradeRank(a, b) <= 0`: higher score first, and majors first where scores nearly tie. -/
def RanksBefore (a b : ScoredPick) : Prop :=
  if |a.totalScore - b.totalScore| ≥ 4 / 100 then b.totalScore ≤ a.totalScore
  else if a.isMajor ≠ b.isMajor then a.isMajor
  else b.totalScore ≤ a.totalScore

instance : DecidableRel RanksBefore := fun a b => by
  unfold RanksBefore
  infer_instance

/-- A token the settings allow, that is not held and has not run away. -/
def qualifies (settings : SuperMachineSettings) (openBases : List String)
    (item : TradeSuggestion) : Bool :=
  let minRank := if settings.minSignal = .strong then 3 else 2
  settings.watchSymbol.all (fun want => item.binanceSymbol.toUpper = want.toUpper) ∧
    minRank ≤ signalRank item.signal ∧ settings.minLiquidityUsd ≤ item.liquidityUsd ∧
    item.baseSymbol.toUpper ∉ openBases ∧ ¬ isOverextended item

def scorePick (signals : List TradeSignal) (item : TradeSuggestion) : ScoredPick where
  pick := item
  volumeScore := calculateVolumeScore item
  momentumScore := calculateMomentumScore item signals
  totalScore := calculateVolumeScore item * (35 / 100) +
    calculateMomentumScore item signals * (65 / 100)
  isMajor := isTier1Major item.baseSymbol

/-- The sort is stable, as an insertion sort is. -/
def rankTokens (suggestions : List TradeSuggestion) (settings : SuperMachineSettings)
    (openBases : List String) (signals : List TradeSignal) : List ScoredPick :=
  ((suggestions.filter (qualifies settings openBases)).map (scorePick signals)).insertionSort
    RanksBefore

/-! ### The decision -/

inductive Action where
  | buy
  | hold
deriving DecidableEq

/-- The texts of `blocked`. -/
inductive Block where
  | maxOpenPositions
  | solSpreadWide
  | orderBookAdverse
  | extremeNegativeSentiment
  | noQualifyingPick
  | negativeSentiment
  | lowConfidence
  | lowVolume
  | riskError
  | riskGate (reason : String)

structure RiskDecision where
  action : Action
  pick : Option TradeSuggestion
  confidence : ℚ
  orderSizeUsd : ℚ
  blocked : Option Block
  quant : Option QuantPayload
  oracle : Option OraclePayload
  pUp : ℚ
  entryScore : ℚ
  volumeScore : ℚ
  momentumScore : ℚ

def defaultDecision (blocked : Block) (quant : Option QuantPayload)
    (oracle : Option OraclePayload) : RiskDecision where
  action := .hold
  pick := none
  confidence := 0
  orderSizeUsd := 0
  blocked := some blocked
  quant := quant
  oracle := oracle
  pUp := 0
  entryScore := 0
  volumeScore := 0
  momentumScore := 0

def calculateAdaptiveThreshold (quant : Option QuantPayload) : ℚ :=
  match quant with
  | none => 48 / 100
  | some tick =>
    if tick.spreadBps > 20 then 48 / 100 + 8 / 100
    else if tick.spreadBps < 10 then 48 / 100 - 3 / 100
    else 48 / 100

/-- The blocks that are not about a token. -/
def accountBlock (settings : SuperMachineSettings) (openCount : ℕ) (quant : Option QuantPayload)
    (oracle : Option OraclePayload) : Option Block :=
  if openCount ≥ settings.maxOpenPositions then some .maxOpenPositions
  else if quant.any (·.spreadBps > 35) then some .solSpreadWide
  else if (quant.bind QuantPayload.obi).any (· < -(4 / 10)) then some .orderBookAdverse
  else if oracle.any fun news => news.sentimentScore < -(45 / 100) ∧ news.confidence > 5 / 10 then
    some .extremeNegativeSentiment
  else none

/-- What the risk analyst has at hand when it goes through its shortlist. -/
structure Setup where
  settings : SuperMachineSettings
  quant : Option QuantPayload
  oracle : Option OraclePayload
  signals : List TradeSignal

namespace Setup

variable (setup : Setup)

def isSolPick (pick : TradeSuggestion) : Bool := pick.baseSymbol.toUpper = "SOL"

def sentimentBoost (pick : TradeSuggestion) : ℚ :=
  match setup.oracle with
  | none => 0
  | some oracle =>
    if oracle.confidence > 35 / 100 then
      oracle.sentimentScore * (if isSolPick pick then 8 / 100 else 2 / 100)
    else 0

def confidence (candidate : ScoredPick) (policy : MetaDecision) : ℚ :=
  let pick := candidate.pick
  let boardSignal := setup.signals.find? fun line =>
    line.symbol = pick.binanceSymbol ∨ line.baseSymbol = pick.baseSymbol
  let momentumBoost := if boardSignal.any TradeSignal.isBuy then 1 / 10 else 0
  let metaWeight := if isSolPick pick then 45 / 100 else 15 / 100
  let jupiterWeight := if isSolPick pick then 35 / 100 else 7 / 10
  let rawConfidence := policy.pUp * metaWeight + momentumBoost + setup.sentimentBoost pick +
    pick.score / 100 * jupiterWeight + calculateEntryScore setup.quant setup.oracle * (1 / 10) +
    candidate.volumeScore * (8 / 100)
  min 1 (max 0 rawConfidence)

/-- `Math.min(settings.maxTradeUsd, meta.orderSizeUsdt || settings.maxTradeUsd)`. -/
def orderSizeUsd (policy : MetaDecision) : ℚ :=
  min setup.settings.maxTradeUsd
    (if policy.orderSizeUsdt = 0 then setup.settings.maxTradeUsd else policy.orderSizeUsdt)

def decision (candidate : ScoredPick) (policy : MetaDecision) (action : Action)
    (blocked : Option Block) (confidence orderSizeUsd : ℚ) : RiskDecision where
  action := action
  pick := some candidate.pick
  confidence := confidence
  orderSizeUsd := orderSizeUsd
  blocked := blocked
  quant := setup.quant
  oracle := setup.oracle
  pUp := policy.pUp
  entryScore := calculateEntryScore setup.quant setup.oracle
  volumeScore := candidate.volumeScore
  momentumScore := candidate.momentumScore

def negativeNews (pick : TradeSuggestion) : Bool :=
  setup.oracle.any fun oracle =>
    oracle.sentimentScore < -(35 / 100) ∧ oracle.confidence > 45 / 100 ∧ isSolPick pick

/-- What a candidate comes to: a miss, after which the next is tried, or the decision. -/
inductive Outcome where
  | miss (decision : RiskDecision)
  | settled (decision : RiskDecision)

def judge (candidate : ScoredPick) (policy : MetaDecision) : Outcome :=
  let confidence := setup.confidence candidate policy
  if setup.negativeNews candidate.pick then
    .miss (setup.decision candidate policy .hold (some .negativeSentiment) 0 0)
  else match policy.blocked with
  | some reason =>
    .settled (setup.decision candidate policy .hold (some (.riskGate reason)) confidence 0)
  | none =>
    if confidence < calculateAdaptiveThreshold setup.quant then
      .miss (setup.decision candidate policy .hold (some .lowConfidence) confidence 0)
    else if candidate.volumeScore < 45 / 100 then
      .miss (setup.decision candidate policy .hold (some .lowVolume) confidence 0)
    else
      .settled (setup.decision candidate policy .buy none confidence (setup.orderSizeUsd policy))

/-- The loop over the shortlist. -/
def tryCandidates (userId : String) (equity : ℚ) :
    List ScoredPick → Option RiskDecision → Call RiskDecision
  | [], firstMiss =>
    pure (firstMiss.getD (defaultDecision .noQualifyingPick setup.quant setup.oracle))
  | candidate :: rest, firstMiss => do
    let policy ← decide candidate.pick.binanceSymbol userId equity
    match setup.judge candidate policy with
    | .miss decision => tryCandidates userId equity rest (firstMiss.or (some decision))
    | .settled decision => pure decision

end Setup

/-- The body of `evaluateJupiterRisk`. An empty ranking leaves nothing to try. -/
def assess (userId : String) (settings : SuperMachineSettings) (openCount : ℕ)
    (openBases : List String) : Call RiskDecision := do
  let quant ← await .marketTick
  let oracle ← await .sentimentUpdate
  match accountBlock settings openCount quant oracle with
  | some block => pure (defaultDecision block quant oracle)
  | none => do
    let suggestions ← await .getJupiterTradeSuggestions
    let signals ← await .getJupiterTradeSignals
    let ranked := rankTokens suggestions settings openBases signals
    Setup.tryCandidates ⟨settings, quant, oracle, signals⟩ userId defaultEquity
      (ranked.take 3) none

def evaluateJupiterRisk (userId : String) (settings : SuperMachineSettings) (openCount : ℕ)
    (openBases : List String) : Call RiskDecision :=
  recover (assess userId settings openCount openBases) fun _ =>
    pure (defaultDecision .riskError none none)

end GdslExchange.SuperMachine
