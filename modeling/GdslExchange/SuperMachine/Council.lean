/-
This file models the council of agents that votes on what the risk analyst has
picked. Momentum, sentiment, the analyst itself, the order book and the volatility
vote by what its decision carries; the technical analyst and the language model
answer for themselves.
-/

import GdslExchange.SuperMachine.RiskAgent

namespace GdslExchange.SuperMachine

open Async.Program

/-! ### Gates of a vote -/

def minVoteConfidence : ℚ := 63 / 100

def coreBuyConfidence : ℚ := 72 / 100

def vetoConfidence : ℚ := 72 / 100

def minBuyVotes : ℕ := 3

def baseThreshold : ℚ := 63 / 100

def councilAgentIds : List CouncilAgentId :=
  [.momentum, .sentiment, .technical, .risk, .llm, .orderbook, .volatility]

def coreAgentIds : List CouncilAgentId := [.momentum, .technical, .risk]

/-- A vote below the floor is offline, and a core agent needs more to vote BUY. -/
def applyConfidenceGates (id : CouncilAgentId) (v : AgentVote) : AgentVote :=
  if v.confidence > 0 ∧ v.confidence < minVoteConfidence then ⟨.hold, 0⟩
  else if id ∈ coreAgentIds ∧ v.vote = .buy ∧ v.confidence < coreBuyConfidence then
    ⟨.hold, v.confidence⟩
  else v

/-! ### The votes -/

def momentumVote (risk : RiskDecision) : AgentVote :=
  match risk.pick with
  | none => ⟨.hold, 0⟩
  | some _ =>
    { vote :=
        if risk.momentumScore ≥ coreBuyConfidence then .buy
        else if risk.momentumScore ≤ 3 / 10 then .avoid
        else .hold
      confidence := min (95 / 100) (max minVoteConfidence risk.momentumScore) }

def sentimentVote : Option OraclePayload → AgentVote
  | none => ⟨.hold, 35 / 100⟩
  | some oracle =>
    if oracle.sentimentScore < -(35 / 100) ∧ oracle.confidence > 4 / 10 then
      ⟨.avoid, min (9 / 10) (oracle.confidence + 2 / 10)⟩
    else if oracle.sentimentScore > 2 / 10 ∧ oracle.confidence > 35 / 100 then
      ⟨.buy, min (85 / 100) (5 / 10 + oracle.sentimentScore * (5 / 10))⟩
    else ⟨.hold, 45 / 100⟩

/-- Without candles and prices the technical analyst blocks the entry. -/
def technicalSnapshot (pick : Option TradeSuggestion) : Call TechnicalSnapshot :=
  match pick with
  | none => pure ⟨⟨.hold, 3 / 10⟩, false, none⟩
  | some pick => do
    let technical ← await (.technicalVote pick.binanceSymbol)
    pure (if technical.unavailable then ⟨⟨.avoid, 78 / 100⟩, true, none⟩ else technical)

/-- The blocks that are no reason to avoid the token. -/
def Block.isMild : Block → Bool
  | lowConfidence => true
  | noQualifyingPick => true
  | maxOpenPositions => true
  | _ => false

def riskVote (risk : RiskDecision) : AgentVote :=
  match risk.blocked with
  | some blocked => ⟨if blocked.isMild then .hold else .avoid, 75 / 100⟩
  | none =>
    if risk.action = .buy ∧ risk.confidence ≥ coreBuyConfidence then
      ⟨.buy, min (95 / 100) (max minVoteConfidence risk.confidence)⟩
    else ⟨.hold, if risk.confidence ≥ minVoteConfidence then min (95 / 100) risk.confidence else 0⟩

/-- The language model is only consulted on live candidates. -/
def llmVote (risk : RiskDecision) : Call AgentVote :=
  match risk.pick, risk.blocked with
  | some pick, none => await (.llmStrategistVote pick.baseSymbol)
  | _, _ => pure ⟨.hold, 0⟩

def orderbookVote (quant : Option QuantPayload) : AgentVote :=
  match quant.bind QuantPayload.obi with
  | none => ⟨.hold, 3 / 10⟩
  | some obi =>
    if obi > 18 / 100 then ⟨.buy, min (85 / 100) (45 / 100 + obi * (6 / 10))⟩
    else if obi < -(18 / 100) then ⟨.avoid, min (85 / 100) (45 / 100 + |obi| * (6 / 10))⟩
    else ⟨.hold, 4 / 10⟩

def volatilityVote (technical : TechnicalSnapshot) : AgentVote :=
  let trend := technical.trendStrength.getD (5 / 10)
  if trend ≥ 72 / 100 then ⟨.buy, min (82 / 100) (4 / 10 + trend * (45 / 100))⟩
  else if trend ≤ 28 / 100 then ⟨.avoid, 7 / 10⟩
  else ⟨.hold, 42 / 100⟩

/-- The votes before and after their gates. -/
def rawVote (risk : RiskDecision) (technical : TechnicalSnapshot) (llm : AgentVote) :
    CouncilAgentId → AgentVote
  | .momentum => momentumVote risk
  | .sentiment => sentimentVote risk.oracle
  | .technical => technical.toVote
  | .risk => riskVote risk
  | .llm => llm
  | .orderbook => orderbookVote risk.quant
  | .volatility => volatilityVote technical

def gatedVote (risk : RiskDecision) (technical : TechnicalSnapshot) (llm : AgentVote)
    (id : CouncilAgentId) : AgentVote :=
  applyConfidenceGates id (rawVote risk technical llm id)

/-! ### The consensus -/

def voteScore (v : AgentVote) : ℚ :=
  match v.vote with
  | .buy => v.confidence
  | .avoid => -v.confidence
  | .hold => 0

/-- Proven agents count more, weak ones less. -/
def accuracyWeight : Option ℚ → ℚ
  | none => 1
  | some accuracyPct => min (14 / 10) (max (6 / 10) (6 / 10 + accuracyPct / 100 * (8 / 10)))

/-- Below the target band of 65 to 70 per cent the bar rises, above it the bar relaxes. -/
def adaptiveThreshold (winRate : WinRate) : ℚ :=
  match winRate.pct with
  | none => baseThreshold
  | some winRatePct =>
    if winRate.samples < 8 then baseThreshold
    else if winRatePct < 65 then
      min (68 / 100) (baseThreshold + (65 - winRatePct) / 100 * (5 / 10) + 2 / 100)
    else if winRatePct > 70 then max (5 / 10) (baseThreshold - 3 / 100)
    else baseThreshold

section Consensus

variable (votes : CouncilAgentId → AgentVote) (accuracy : CouncilAgentId → Option ℚ)

def counted : List CouncilAgentId := councilAgentIds.filter fun id => (votes id).confidence ≠ 0

def consensus : ℚ :=
  let weight (id : CouncilAgentId) := accuracyWeight (accuracy id)
  let weighted := ((counted votes).map fun id => voteScore (votes id) * weight id).sum
  let totalWeight := ((counted votes).map weight).sum
  if totalWeight > 0 then (weighted / totalWeight + 1) / 2 else 5 / 10

def vetoedBy : Option CouncilAgentId :=
  (counted votes).find? fun id => (votes id).vote = .avoid ∧ vetoConfidence ≤ (votes id).confidence

def buyVotes : ℕ :=
  (councilAgentIds.filter fun id => (votes id).vote = .buy ∧ (votes id).confidence > 0).length

def coreAligned : Bool :=
  coreAgentIds.all fun id => (votes id).vote = .buy ∧ coreBuyConfidence ≤ (votes id).confidence

def enoughBuys : Bool := buyVotes votes ≥ minBuyVotes ∨ (coreAligned votes ∧ buyVotes votes ≥ 2)

end Consensus

structure CouncilDecision where
  action : Action
  consensus : ℚ
  threshold : ℚ
  vetoedBy : Option CouncilAgentId
  orderSizeUsd : ℚ

/-- The council buys what the analyst would buy, if it agrees and nobody vetoes it. -/
def councilDecision (risk : RiskDecision) (votes : CouncilAgentId → AgentVote)
    (accuracy : CouncilAgentId → Option ℚ) (winRate : WinRate) : CouncilDecision :=
  let threshold := adaptiveThreshold winRate
  let action : Action :=
    if risk.blocked = none ∧ risk.action = .buy ∧ consensus votes accuracy ≥ threshold ∧
        enoughBuys votes ∧ vetoedBy votes = none then .buy
    else .hold
  { action := action
    consensus := consensus votes accuracy
    threshold := threshold
    vetoedBy := vetoedBy votes
    orderSizeUsd := if action = .buy then risk.orderSizeUsd else 0 }

def councilEvaluate (userId : String) (settings : SuperMachineSettings) (openCount : ℕ)
    (openBases : List String) : Call (CouncilDecision × RiskDecision) := do
  let risk ← evaluateJupiterRisk userId settings openCount openBases
  let accuracy ← recover (await .agentAccuracy) fun _ => pure fun _ => none
  let winRate ← recover (await .rollingWinRate) fun _ => pure ⟨none, 0⟩
  let technical ← technicalSnapshot risk.pick
  let llm ← llmVote risk
  pure (councilDecision risk (gatedVote risk technical llm) accuracy winRate, risk)

theorem buy_of_councilDecision {risk : RiskDecision} {votes : CouncilAgentId → AgentVote}
    {accuracy : CouncilAgentId → Option ℚ} {winRate : WinRate}
    (bought : (councilDecision risk votes accuracy winRate).action = .buy) :
    risk.action = .buy := by
  unfold councilDecision at bought
  dsimp only at bought
  split at bought
  · next agreed => exact agreed.2.1
  · cases bought

end GdslExchange.SuperMachine
