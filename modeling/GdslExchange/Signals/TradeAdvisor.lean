/-
This file models the trade advisor: what it says about a trade that is proposed, and which size it
recommends, out of a snapshot of the signal providers and the user's own history. The time is only
written on the advice.
-/

import GdslExchange.Orders.Desk

namespace GdslExchange.Signals

open Numeric

/-! ### Snapshots -/

inductive SignalDirection where
  | buy
  | sell
  | hold
deriving DecidableEq

/-- A provider, with those of its features that are numbers. -/
structure SignalProvider where
  id : String
  confidence : ℚ
  features : List (String × ℚ)

structure Consensus where
  signal : SignalDirection
  confidence : ℚ

/-- The fields of an `EnhancedSignalSnapshot` that the advisor reads. -/
structure Snapshot where
  providerCount : ℕ
  consensus : Consensus
  change24hPct : Option ℚ
  providers : List SignalProvider
  capitalFraction : ℚ

def Snapshot.pickProvider (snapshot : Snapshot) (id : String) : Option SignalProvider :=
  snapshot.providers.find? fun provider => provider.id = id

def Snapshot.feature (snapshot : Snapshot) (id name : String) : Option ℚ :=
  (snapshot.pickProvider id).bind fun provider => provider.features.lookup name

/-! ### Advice -/

inductive AdvisorySeverity where
  | info
  | warning
  | block
deriving DecidableEq

inductive AdvisoryDecision where
  | ok
  | caution
  | block
deriving DecidableEq

/-- The codes of the reasons. -/
inductive ReasonCode where
  | operatorMaintenance
  | insufficientProviders
  | consensusSell
  | lowConfidence
  | weakBuy
  | consensusAgainstSell
  | extremeVolatility
  | highFundingLongs
  | negativeNews
  | extremeGreed
  | extremeFear
  | losingStreakBlock
  | losingStreak
  | highProjectedLoss
deriving DecidableEq

structure AdvisoryReason where
  code : ReasonCode
  severity : AdvisorySeverity
  message : String
  source : String
  sourceUrl : Option String

inductive TradeSide where
  | buy
  | sell
deriving DecidableEq

structure TradeAdvisoryRequest where
  userId : String
  symbol : String
  side : TradeSide
  sizeUsdt : ℚ
  accountEquityUsdt : Option ℚ

structure TradeAdvisory where
  symbol : String
  side : TradeSide
  decision : AdvisoryDecision
  allow : Bool
  highestSeverity : AdvisorySeverity
  reasons : List AdvisoryReason
  projectedWorstCaseLossUsdt : Option ℚ
  expectedAdverseMovePct : ℚ
  recommendedSizeUsdt : ℚ
  capitalCapPct : ℚ
  cooldownSecs : ℕ
  evaluatedAt : ℕ
  snapshot : Snapshot

/-- The operator's switch. -/
structure AutomationEnv where
  liveAutomationEnabled : Bool
  maintenanceReason : Option String

/-! ### Thresholds -/

def minProvidersForBuy : ℕ := 2
def strongSellBlockConfidence : ℚ := 6 / 10
def strongConfidence : ℚ := 55 / 100
def softConfidence : ℚ := 35 / 100
def volatile24hPct : ℚ := 18
def highFundingRate : ℚ := 12 / 10000
def losingStreakBlock : ℕ := 5
def losingStreakCaution : ℕ := 3
def defaultCapPct : ℚ := 6 / 100

/-! ### The checks -/

section Checks

variable (env : AutomationEnv) (req : TradeAdvisoryRequest) (snapshot : Snapshot)

/-- The symbol in capitals, without its first slash. -/
def adviceSymbol : String := String.ofList (req.symbol.toUpper.toList.erase '/')

def enhancedSignalUrl : String := "/api/engine/signal/enhanced"

def percent (places : ℕ) (share : ℚ) : String := (toFixed places (share * 100)).render

def maintenanceReasons : List AdvisoryReason :=
  if env.liveAutomationEnabled then []
  else [⟨.operatorMaintenance, .block,
    env.maintenanceReason.getD
      "Live automation is paused by the operator. New buys are blocked.",
    "CryptoFlow operator console", none⟩]

def quorumReasons : List AdvisoryReason :=
  if snapshot.providerCount < minProvidersForBuy then
    [⟨.insufficientProviders, if snapshot.providerCount = 0 then .warning else .info,
      "Only " ++ toString snapshot.providerCount ++
        " signal provider(s) reporting. Falling back to AI consensus.",
      "CryptoFlow signal hub", some enhancedSignalUrl⟩]
  else []

/-- A SELL consensus, against a BUY. -/
def sellConsensusReason (confidence : ℚ) : AdvisoryReason :=
  let strongSell : Bool := strongSellBlockConfidence ≤ confidence
  let moderateSell : Bool := softConfidence ≤ confidence
  ⟨.consensusSell, if strongSell then .block else if moderateSell then .warning else .info,
    "Aggregated consensus is SELL with " ++ percent 1 confidence ++ "% conviction." ++
      (if strongSell then " Buying now fights a strong trend — auto-trades blocked."
      else if moderateSell then " Use caution / smaller size."
      else " Conviction is weak — informational only."),
    "Multi-source consensus (TV / funding / breadth / news / FNG)", some enhancedSignalUrl⟩

def consensusReasons : List AdvisoryReason :=
  let confidence := snapshot.consensus.confidence
  match req.side, snapshot.consensus.signal with
  | .buy, .sell => [sellConsensusReason confidence]
  | .buy, .hold =>
    if confidence < softConfidence then
      [⟨.lowConfidence, .info,
        "Consensus is HOLD at low confidence (" ++ percent 1 confidence ++
          "%). The AI signal is the primary driver here — informational only.",
        "Multi-source consensus", some enhancedSignalUrl⟩]
    else []
  | .buy, .buy =>
    if confidence < softConfidence then
      [⟨.weakBuy, .info,
        "BUY consensus exists with " ++ percent 1 confidence ++
          "% conviction. Sizing held to a conservative slice.",
        "Multi-source consensus", some enhancedSignalUrl⟩]
    else []
  | .sell, .buy =>
    if strongConfidence ≤ confidence then
      [⟨.consensusAgainstSell, .warning,
        "Aggregated consensus is BUY with " ++ percent 1 confidence ++
          "% conviction. Selling here may forfeit upside.",
        "Multi-source consensus", some enhancedSignalUrl⟩]
    else []
  | .sell, _ => []

def volatilityReasons : List AdvisoryReason :=
  match snapshot.change24hPct with
  | none => []
  | some change24h =>
    if volatile24hPct ≤ |change24h| then
      [⟨.extremeVolatility, .warning,
        adviceSymbol req ++ " moved " ++ (toFixed 2 change24h).render ++
          "% in 24h. Reduce size or wait for stabilisation — slippage and reversals are likely.",
        "Binance 24h ticker", some "https://api.binance.com/api/v3/ticker/24hr"⟩]
    else []

def fundingReasons : List AdvisoryReason :=
  match snapshot.feature "binance-futures-funding" "lastFundingRate" with
  | none => []
  | some fundingRate =>
    if req.side = .buy ∧ highFundingRate ≤ fundingRate then
      [⟨.highFundingLongs, .warning,
        "Perpetual funding is " ++ percent 4 fundingRate ++
          "% — longs are paying premium and are crowded. Long entries here often get squeezed.",
        "Binance Futures premiumIndex", some "https://fapi.binance.com/fapi/v1/premiumIndex"⟩]
    else []

def newsReasons : List AdvisoryReason :=
  match snapshot.feature "cryptoflow-news-sentiment" "averageSentiment" with
  | none => []
  | some newsScore =>
    let confidence :=
      ((snapshot.pickProvider "cryptoflow-news-sentiment").map SignalProvider.confidence).getD 0
    if req.side = .buy ∧ newsScore ≤ -(3 / 10) ∧ 4 / 10 ≤ confidence then
      [⟨.negativeNews, .warning,
        "News + Reddit sentiment averaging " ++ (toFixed 2 newsScore).render ++
          " (bearish). Wait for sentiment to stabilise before adding longs.",
        "RSS news + Reddit sentiment ingest", some "/api/dashboard/summary"⟩]
    else []

def fearGreedReasons : List AdvisoryReason :=
  match snapshot.feature "alternative-me-fng" "value" with
  | none => []
  | some fngVal =>
    if req.side = .buy ∧ 80 ≤ fngVal then
      [⟨.extremeGreed, .warning,
        "Fear & Greed index is " ++ text fngVal ++
          " (extreme greed). Risk of local top — reduce buy size.",
        "Alternative.me Fear & Greed", some "https://api.alternative.me/fng/"⟩]
    else if req.side = .sell ∧ fngVal ≤ 20 then
      [⟨.extremeFear, .info,
        "Fear & Greed index is " ++ text fngVal ++
          " (extreme fear). Selling into capitulation often locks in losses.",
        "Alternative.me Fear & Greed", some "https://api.alternative.me/fng/"⟩]
    else []

/-! ### The losing streak -/

/-- The closed trades of a user that have a profit or a loss. -/
def settledTrades (trades : List Orders.Trade) (userId : String) : List Orders.Trade :=
  (Orders.closedTrades trades userId).filter fun trade => trade.pnl.isSome

def lost (trade : Orders.Trade) : Bool := trade.pnl.getD 0 < 0

def getRecentLosingStreak (trades : List Orders.Trade) (userId : String) : ℕ :=
  ((((settledTrades trades userId).mergeSort fun first second =>
    decide (second.createdAt ≤ first.createdAt)).take 8).takeWhile lost).length

def streakReason (streak : ℕ) : Option AdvisoryReason :=
  if losingStreakBlock ≤ streak then
    some ⟨.losingStreakBlock, .block,
      toString streak ++ " consecutive losing trades — auto-trading is on cooldown for 30 minutes" ++
        " to protect capital.", "CryptoFlow trade history", some "/api/engine/logs"⟩
  else if losingStreakCaution ≤ streak then
    some ⟨.losingStreak, .warning,
      toString streak ++ " consecutive losing trades — reducing size by 50%.",
      "CryptoFlow trade history", some "/api/engine/logs"⟩
  else none

/-- The history of trades; where it cannot be looked up there is no streak. -/
abbrev History := Option (List Orders.Trade)

def streakReasons (history : History) : List AdvisoryReason :=
  ((history.map fun trades => getRecentLosingStreak trades req.userId).bind streakReason).toList

def cooldownSecs (history : History) : ℕ :=
  match history with
  | none => 0
  | some trades =>
    if losingStreakBlock ≤ getRecentLosingStreak trades req.userId then 60 * 30 else 0

/-! ### The projected loss -/

/-- By the ATR, or where there is none by half of the change of a day. -/
def expectedAdverseMovePct : ℚ :=
  match snapshot.feature "tradingview-style-ta" "volatilityPct" with
  | some atrPct => max atrPct (15 / 10)
  | none => min 15 (max 3 ((snapshot.change24hPct.map fun change24h => |change24h| / 2).getD 5))

def projectedWorstCaseLossUsdt : Option ℚ :=
  if 0 < req.sizeUsdt then
    some (toFixed 2 (req.sizeUsdt * (expectedAdverseMovePct snapshot / 100))).value
  else none

def projectedLossReasons : List AdvisoryReason :=
  match projectedWorstCaseLossUsdt req snapshot with
  | none => []
  | some projected =>
    if req.sizeUsdt * (15 / 100) ≤ projected then
      [⟨.highProjectedLoss,
        if req.sizeUsdt * (25 / 100) ≤ projected then .warning else .info,
        "Worst-case 1d adverse move (~" ++ (toFixed 2 (expectedAdverseMovePct snapshot)).render ++
          "%) would risk ~$" ++ (toFixed 2 projected).render ++
          " on this position. Tighten stop-loss or reduce size.",
        "Binance 1h klines (ATR-style range)", some "https://api.binance.com/api/v3/klines"⟩]
    else []

/-- All reasons, in the order of the checks. -/
def adviceReasons (history : History) : List AdvisoryReason :=
  maintenanceReasons env ++ quorumReasons snapshot ++ consensusReasons req snapshot ++
    volatilityReasons req snapshot ++ fundingReasons req snapshot ++ newsReasons req snapshot ++
    fearGreedReasons req snapshot ++ streakReasons req history ++
    projectedLossReasons req snapshot

/-! ### The recommended size -/

def accountEquity : Option ℚ := req.accountEquityUsdt.filter fun equity => 0 < equity

/-- The share of the equity that a trade may take. -/
def capitalCapPct : ℚ :=
  match accountEquity req with
  | none => defaultCapPct
  | some _ => min defaultCapPct
      (if snapshot.capitalFraction = 0 then defaultCapPct else snapshot.capitalFraction)

/-- The reasons that halve a size. -/
def ReasonCode.halves : ReasonCode → Bool
  | .losingStreak => true
  | .extremeVolatility => true
  | .weakBuy => true
  | .highFundingLongs => true
  | .negativeNews => true
  | _ => false

/-- The size, capped by the equity and halved for some of the reasons, in cents. -/
def recommendedSize (reasons : List AdvisoryReason) : ℚ :=
  let capped := match accountEquity req with
    | none => req.sizeUsdt
    | some equity => min req.sizeUsdt (equity * capitalCapPct req snapshot)
  let halved := if reasons.any fun reason => reason.code.halves then capped * (5 / 10) else capped
  max 0 (toFixed 2 halved).value

def rollUpSeverity (reasons : List AdvisoryReason) : AdvisorySeverity :=
  if reasons.any fun reason => reason.severity = .block then .block
  else if reasons.any fun reason => reason.severity = .warning then .warning
  else .info

def decisionFromSeverity : AdvisorySeverity → AdvisoryDecision
  | .block => .block
  | .warning => .caution
  | .info => .ok

/-- `evaluateTradeIntent`, once the snapshot is there. -/
def evaluateTradeIntent (history : History) (now : ℕ) : TradeAdvisory :=
  let reasons := adviceReasons env req snapshot history
  let highestSeverity := rollUpSeverity reasons
  let decision := decisionFromSeverity highestSeverity
  { symbol := adviceSymbol req
    side := req.side
    decision := decision
    allow := decision ≠ .block
    highestSeverity := highestSeverity
    reasons := reasons
    projectedWorstCaseLossUsdt := projectedWorstCaseLossUsdt req snapshot
    expectedAdverseMovePct := expectedAdverseMovePct snapshot
    recommendedSizeUsdt := if decision = .block then 0 else recommendedSize req snapshot reasons
    capitalCapPct := capitalCapPct req snapshot
    cooldownSecs := cooldownSecs req history
    evaluatedAt := now
    snapshot := snapshot }

end Checks

/-! ### What an advice holds -/

section Advice

variable {env : AutomationEnv} {req : TradeAdvisoryRequest} {snapshot : Snapshot}
  {history : History} {now : ℕ}

theorem recommendedSizeUsdt_nonneg :
    0 ≤ (evaluateTradeIntent env req snapshot history now).recommendedSizeUsdt := by
  unfold evaluateTradeIntent
  dsimp only
  split
  · exact le_rfl
  · exact le_max_left _ _

theorem allow_iff : (evaluateTradeIntent env req snapshot history now).allow = true ↔
    ∀ reason ∈ adviceReasons env req snapshot history, reason.severity ≠ .block := by
  have blocks : rollUpSeverity (adviceReasons env req snapshot history) = .block ↔
      ∃ reason ∈ adviceReasons env req snapshot history, reason.severity = .block := by
    unfold rollUpSeverity
    split
    · next some => exact iff_of_true rfl (by simpa using some)
    · next none =>
      refine iff_of_false ?_ (by simpa using none)
      split <;> nofun
  have decides : ∀ severity, decisionFromSeverity severity = .block ↔ severity = .block := by
    rintro (_ | _ | _) <;> simp [decisionFromSeverity]
  unfold evaluateTradeIntent
  rw [decide_eq_true_iff, ne_eq, decides, blocks]
  simp only [not_exists, not_and, ne_eq]

theorem mem_streakReasons {reason : AdvisoryReason}
    (member : reason ∈ adviceReasons env req snapshot history)
    (code : reason.code = .losingStreakBlock) : reason ∈ streakReasons req history := by
  have never {one : AdvisoryReason} (only : reason ∈ [one]) :
      one.code = .losingStreakBlock := List.mem_singleton.mp only ▸ code
  unfold adviceReasons at member
  simp only [List.mem_append] at member
  obtain (((((((maintenance | quorum) | consensus) | volatility) | funding) | news) | fearGreed) |
    streak) | loss := member
  · unfold maintenanceReasons at maintenance
    split at maintenance
    · cases maintenance
    · cases never maintenance
  · unfold quorumReasons at quorum
    split at quorum
    · cases never quorum
    · cases quorum
  · unfold consensusReasons at consensus
    dsimp only at consensus
    split at consensus
    · cases never consensus
    · split at consensus
      · cases never consensus
      · cases consensus
    · split at consensus
      · cases never consensus
      · cases consensus
    · split at consensus
      · cases never consensus
      · cases consensus
    · cases consensus
  · unfold volatilityReasons at volatility
    split at volatility
    · cases volatility
    · split at volatility
      · cases never volatility
      · cases volatility
  · unfold fundingReasons at funding
    split at funding
    · cases funding
    · split at funding
      · cases never funding
      · cases funding
  · unfold newsReasons at news
    split at news
    · cases news
    · dsimp only at news
      split at news
      · cases never news
      · cases news
  · unfold fearGreedReasons at fearGreed
    split at fearGreed
    · cases fearGreed
    · split at fearGreed
      · cases never fearGreed
      · split at fearGreed
        · cases never fearGreed
        · cases fearGreed
  · exact streak
  · unfold projectedLossReasons at loss
    split at loss
    · cases loss
    · split at loss
      · cases never loss
      · cases loss

end Advice

end GdslExchange.Signals
