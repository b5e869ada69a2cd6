/-
This file settles how far the council's action follows the confidence of its agents.

A more confident BUY keeps a BUY unless it changes whether the vote counts. The vote of a core agent
first comes to count as a HOLD, which dilutes the consensus: from under the floor to under what a
core agent needs, more confidence can cost the trade.
-/

import GdslExchange.Numeric.WeightedMean
import GdslExchange.SuperMachine.Council

namespace GdslExchange.SuperMachine

open Numeric

/-! ### Raised votes -/

/-- The votes after their gates. -/
def gated (raw : CouncilAgentId → AgentVote) (id : CouncilAgentId) : AgentVote :=
  applyConfidenceGates id (raw id)

def councilAction (risk : RiskDecision) (votes : CouncilAgentId → AgentVote)
    (accuracy : CouncilAgentId → Option ℚ) (threshold : ℚ) : Action :=
  if risk.blocked = none ∧ risk.action = .buy ∧ consensus votes accuracy ≥ threshold ∧
      enoughBuys votes ∧ vetoedBy votes = none then .buy
  else .hold

def withBuy (raw : CouncilAgentId → AgentVote) (id : CouncilAgentId) (confidence : ℚ) :
    CouncilAgentId → AgentVote :=
  Function.update raw id ⟨.buy, confidence⟩

/-- A BUY that comes to count for less than the threshold asks, or that has counted for more and no
longer does. -/
def Dilutes (id : CouncilAgentId) (threshold lower higher : ℚ) : Prop :=
  let before := applyConfidenceGates id ⟨.buy, lower⟩
  let after := applyConfidenceGates id ⟨.buy, higher⟩
  (before.confidence = 0 ∧ after.confidence ≠ 0 ∧ voteScore after < 2 * threshold - 1) ∨
    (before.confidence ≠ 0 ∧ after.confidence = 0 ∧ 2 * threshold - 1 < voteScore before)

/-- More confidence in a BUY keeps a BUY, where it is not one of the excepted rises. -/
def KeepsBuys (excepted : CouncilAgentId → ℚ → ℚ → ℚ → Prop) : Prop :=
  ∀ (risk : RiskDecision) (raw : CouncilAgentId → AgentVote)
    (accuracy : CouncilAgentId → Option ℚ) (threshold : ℚ) (id : CouncilAgentId) (higher : ℚ),
    (raw id).vote = .buy → (raw id).confidence ≤ higher →
    ¬ excepted id threshold (raw id).confidence higher →
    councilAction risk (gated raw) accuracy threshold = .buy →
      councilAction risk (gated (withBuy raw id higher)) accuracy threshold = .buy

/-- The same of the council's own thresholds, where no confidence is negative: the only rise that
can cost the trade is the one by which a core agent's vote becomes a HOLD. -/
def KeepsCouncilBuys : Prop :=
  ∀ (risk : RiskDecision) (raw : CouncilAgentId → AgentVote)
    (accuracy : CouncilAgentId → Option ℚ) (winRate : WinRate) (id : CouncilAgentId) (higher : ℚ),
    (raw id).vote = .buy → 0 ≤ (raw id).confidence → (raw id).confidence ≤ higher →
    ¬ (id ∈ coreAgentIds ∧ (raw id).confidence < minVoteConfidence ∧ minVoteConfidence ≤ higher ∧
      higher < coreBuyConfidence) →
    (councilDecision risk (gated raw) accuracy winRate).action = .buy →
      (councilDecision risk (gated (withBuy raw id higher)) accuracy winRate).action = .buy

/-- The consensus is a share, of votes whose confidences are. -/
def ConsensusIsShare : Prop :=
  ∀ (raw : CouncilAgentId → AgentVote) (accuracy : CouncilAgentId → Option ℚ),
    (∀ id, 0 ≤ (raw id).confidence ∧ (raw id).confidence ≤ 1) →
    0 ≤ consensus (gated raw) accuracy ∧ consensus (gated raw) accuracy ≤ 1

/-! ### The gates of a BUY -/

section Gates

variable {id : CouncilAgentId} {lower higher threshold : ℚ}

theorem applyConfidenceGates_buy (id : CouncilAgentId) (confidence : ℚ) :
    (0 < confidence ∧ confidence < minVoteConfidence ∧
        applyConfidenceGates id ⟨.buy, confidence⟩ = ⟨.hold, 0⟩) ∨
      ((confidence ≤ 0 ∨ minVoteConfidence ≤ confidence) ∧
        ((id ∈ coreAgentIds ∧ confidence < coreBuyConfidence ∧
            applyConfidenceGates id ⟨.buy, confidence⟩ = ⟨.hold, confidence⟩) ∨
          (¬ (id ∈ coreAgentIds ∧ confidence < coreBuyConfidence) ∧
            applyConfidenceGates id ⟨.buy, confidence⟩ = ⟨.buy, confidence⟩))) := by
  unfold applyConfidenceGates
  split
  · next offline => exact Or.inl ⟨offline.1, offline.2, rfl⟩
  · next online =>
    have counts := (not_and_or.mp online).imp not_lt.mp not_lt.mp
    refine Or.inr ⟨counts, ?_⟩
    split
    · next short => exact Or.inl ⟨short.1, short.2.2, rfl⟩
    · next enough => exact Or.inr ⟨fun short => enough ⟨short.1, rfl, short.2⟩, rfl⟩

/-- Of two BUYs that count the more confident one scores no less. -/
theorem voteScore_mono (le : lower ≤ higher)
    (before : (applyConfidenceGates id ⟨.buy, lower⟩).confidence ≠ 0)
    (after : (applyConfidenceGates id ⟨.buy, higher⟩).confidence ≠ 0) :
    voteScore (applyConfidenceGates id ⟨.buy, lower⟩) ≤
      voteScore (applyConfidenceGates id ⟨.buy, higher⟩) := by
  rcases applyConfidenceGates_buy id lower with
    ⟨-, -, isBefore⟩ | ⟨-, ⟨core, short, isBefore⟩ | ⟨enough, isBefore⟩⟩
  · exact absurd (congrArg AgentVote.confidence isBefore) before
  all_goals
    rcases applyConfidenceGates_buy id higher with
      ⟨-, -, isAfter⟩ | ⟨-, ⟨coreAfter, shortAfter, isAfter⟩ | ⟨enoughAfter, isAfter⟩⟩
  · exact absurd (congrArg AgentVote.confidence isAfter) after
  · rw [isBefore, isAfter]
    exact le_rfl
  · rw [isBefore, isAfter]
    have buys : coreBuyConfidence ≤ higher := not_lt.mp fun lt => enoughAfter ⟨core, lt⟩
    exact (show (0 : ℚ) ≤ coreBuyConfidence by norm_num [coreBuyConfidence]).trans buys
  · exact absurd (congrArg AgentVote.confidence isAfter) after
  · exact absurd ⟨coreAfter, le.trans_lt shortAfter⟩ enough
  · rw [isBefore, isAfter]
    exact le

theorem stillBuys (le : lower ≤ higher)
    (buys : (applyConfidenceGates id ⟨.buy, lower⟩).vote = .buy)
    (counts : 0 < (applyConfidenceGates id ⟨.buy, lower⟩).confidence) :
    applyConfidenceGates id ⟨.buy, lower⟩ = ⟨.buy, lower⟩ ∧
      applyConfidenceGates id ⟨.buy, higher⟩ = ⟨.buy, higher⟩ := by
  rcases applyConfidenceGates_buy id lower with
    ⟨-, -, isBefore⟩ | ⟨online, ⟨-, -, isBefore⟩ | ⟨enough, isBefore⟩⟩
  · rw [isBefore] at buys
    cases buys
  · rw [isBefore] at buys
    cases buys
  refine ⟨isBefore, ?_⟩
  rw [isBefore] at counts
  have floor : minVoteConfidence ≤ lower := online.resolve_left counts.not_ge
  rcases applyConfidenceGates_buy id higher with
    ⟨-, offline, -⟩ | ⟨-, ⟨core, short, -⟩ | ⟨-, isAfter⟩⟩
  · exact absurd offline (floor.trans le).not_gt
  · exact absurd ⟨core, le.trans_lt short⟩ enough
  · exact isAfter

theorem applyConfidenceGates_ne_avoid (id : CouncilAgentId) (confidence : ℚ) :
    (applyConfidenceGates id ⟨.buy, confidence⟩).vote ≠ .avoid := by
  rcases applyConfidenceGates_buy id confidence with
    ⟨-, -, isVote⟩ | ⟨-, ⟨-, -, isVote⟩ | ⟨-, isVote⟩⟩ <;>
  · rw [isVote]
    nofun

theorem adaptiveThreshold_le (winRate : WinRate) : adaptiveThreshold winRate ≤ 68 / 100 := by
  unfold adaptiveThreshold
  split
  · norm_num [baseThreshold]
  · split
    · norm_num [baseThreshold]
    split
    · exact min_le_left _ _
    split
    · norm_num [baseThreshold]
    · norm_num [baseThreshold]

/-- Under a threshold below 0.815 a vote that comes to count as a BUY dilutes nothing. -/
theorem not_dilutes (low : threshold ≤ 68 / 100) (nonneg : 0 ≤ lower)
    (unexcepted : ¬ (id ∈ coreAgentIds ∧ lower < minVoteConfidence ∧ minVoteConfidence ≤ higher ∧
      higher < coreBuyConfidence)) (le : lower ≤ higher) : ¬ Dilutes id threshold lower higher := by
  have isFloor : minVoteConfidence = 63 / 100 := rfl
  rintro (⟨uncounted, counts, below⟩ | ⟨counts, uncounted, -⟩)
  · rcases applyConfidenceGates_buy id higher with
      ⟨-, -, isAfter⟩ | ⟨online, ⟨core, short, isAfter⟩ | ⟨-, isAfter⟩⟩
    · exact counts (congrArg AgentVote.confidence isAfter)
    · rw [isAfter] at counts
      have positive : 0 < higher := (nonneg.trans le).lt_of_ne' counts
      have floor := online.resolve_left positive.not_ge
      refine unexcepted ⟨core, ?_, floor, short⟩
      rcases applyConfidenceGates_buy id lower with
        ⟨-, offline, -⟩ | ⟨-, ⟨-, -, isBefore⟩ | ⟨-, isBefore⟩⟩
      · exact offline
      all_goals
        rw [isBefore] at uncounted
        linarith
    · rw [isAfter] at counts below
      have positive : 0 < higher := (nonneg.trans le).lt_of_ne' counts
      have floor := online.resolve_left positive.not_ge
      change higher < 2 * threshold - 1 at below
      linarith
  · rcases applyConfidenceGates_buy id lower with
      ⟨-, -, isBefore⟩ | ⟨online, isBefore⟩
    · exact counts (congrArg AgentVote.confidence isBefore)
    · have counted : lower ≠ 0 := by
        rcases isBefore with ⟨-, -, isBefore⟩ | ⟨-, isBefore⟩ <;>
        · rw [isBefore] at counts
          exact counts
      have floor := online.resolve_left (nonneg.lt_of_ne' counted).not_ge
      rcases applyConfidenceGates_buy id higher with
        ⟨-, offline, -⟩ | ⟨-, ⟨-, -, isAfter⟩ | ⟨-, isAfter⟩⟩
      · exact offline.not_ge (floor.trans le)
      all_goals
        rw [isAfter] at uncounted
        linarith

end Gates

/-! ### The consensus -/

section Consensus

variable {votes others : CouncilAgentId → AgentVote} {accuracy : CouncilAgentId → Option ℚ}
  {threshold : ℚ}

theorem accuracyWeight_pos (accuracyPct : Option ℚ) : 0 < accuracyWeight accuracyPct := by
  unfold accuracyWeight
  split
  · exact one_pos
  · exact lt_min (by norm_num) (lt_max_of_lt_left (by norm_num))

/-- What a vote brings to the consensus over a level. -/
def contribution (accuracyPct : Option ℚ) (level : ℚ) (vote : AgentVote) : ℚ :=
  if vote.confidence = 0 then 0 else (voteScore vote - level) * accuracyWeight accuracyPct

theorem sum_weight_counted_pos (nonempty : counted votes ≠ []) :
    0 < ((counted votes).map fun id => accuracyWeight (accuracy id)).sum :=
  sum_weight_pos (fun _ _ => accuracyWeight_pos _) nonempty

theorem consensus_eq (nonempty : counted votes ≠ []) : consensus votes accuracy =
    (weightedMean (fun id => accuracyWeight (accuracy id)) (fun id => voteScore (votes id))
      (counted votes) + 1) / 2 :=
  if_pos (sum_weight_counted_pos nonempty)

/-- The consensus reaches a threshold where the votes together have a surplus over it. -/
theorem le_consensus_iff (nonempty : counted votes ≠ []) : threshold ≤ consensus votes accuracy ↔
    0 ≤ (councilAgentIds.map fun id =>
      contribution (accuracy id) (2 * threshold - 1) (votes id)).sum := by
  have same : (councilAgentIds.map fun id =>
      contribution (accuracy id) (2 * threshold - 1) (votes id)).sum =
      ((counted votes).map (surplus (fun id => accuracyWeight (accuracy id))
        (fun id => voteScore (votes id)) (2 * threshold - 1))).sum := by
    unfold counted
    rw [sum_filter_eq]
    refine congrArg List.sum (List.map_congr_left fun id _ => ?_)
    unfold contribution surplus
    by_cases offline : (votes id).confidence = 0 <;> simp [offline]
  rw [same, ← le_weightedMean_iff (sum_weight_counted_pos nonempty), consensus_eq nonempty]
  constructor <;> intro le <;> linarith

theorem voteScore_bounds {vote : AgentVote} (nonneg : 0 ≤ vote.confidence)
    (le_one : vote.confidence ≤ 1) : -1 ≤ voteScore vote ∧ voteScore vote ≤ 1 := by
  unfold voteScore
  split <;> constructor <;> linarith

theorem applyConfidenceGates_bounds {id : CouncilAgentId} {vote : AgentVote}
    (nonneg : 0 ≤ vote.confidence) (le_one : vote.confidence ≤ 1) :
    0 ≤ (applyConfidenceGates id vote).confidence ∧
      (applyConfidenceGates id vote).confidence ≤ 1 := by
  unfold applyConfidenceGates
  split
  · exact ⟨le_rfl, zero_le_one⟩
  split <;> exact ⟨nonneg, le_one⟩

theorem consensusIsShare : ConsensusIsShare := by
  intro raw accuracy shares
  have bounds (id : CouncilAgentId) :
      -1 ≤ voteScore (gated raw id) ∧ voteScore (gated raw id) ≤ 1 :=
    have share := applyConfidenceGates_bounds (shares id).1 (shares id).2
    voteScore_bounds share.1 share.2
  rcases eq_or_ne (counted (gated raw)) [] with none | nonempty
  · unfold consensus
    rw [none]
    constructor <;> norm_num
  · rw [consensus_eq nonempty]
    have low : -1 ≤ weightedMean (fun id => accuracyWeight (accuracy id))
        (fun id => voteScore (gated raw id)) (counted (gated raw)) :=
      le_weightedMean (fun _ _ => accuracyWeight_pos _) nonempty fun id _ => (bounds id).1
    have high : weightedMean (fun id => accuracyWeight (accuracy id))
        (fun id => voteScore (gated raw id)) (counted (gated raw)) ≤ 1 :=
      weightedMean_le (fun _ _ => accuracyWeight_pos _) nonempty fun id _ => (bounds id).2
    constructor <;> linarith

end Consensus

/-! ### The action -/

/-- A vote that still buys where the other does, and avoids nothing new. -/
structure Follows (before after : AgentVote) : Prop where
  buys : before.vote = .buy → 0 < before.confidence →
    after.vote = .buy ∧ before.confidence ≤ after.confidence
  avoids : after.vote = .avoid → after = before

section Action

variable {votes others : CouncilAgentId → AgentVote} {accuracy : CouncilAgentId → Option ℚ}
  {threshold : ℚ}

theorem Follows.refl (vote : AgentVote) : Follows vote vote :=
  ⟨fun buys _ => ⟨buys, le_rfl⟩, fun _ => rfl⟩

section

variable (follows : ∀ id, Follows (votes id) (others id))
include follows

theorem buyVotes_le :
    buyVotes votes ≤ buyVotes others := by
  refine (List.monotone_filter_right _ fun id buys => ?_).length_le
  rw [decide_eq_true_eq] at buys ⊢
  obtain ⟨stillBuys, more⟩ := (follows id).buys buys.1 buys.2
  exact ⟨stillBuys, buys.2.trans_le more⟩

theorem coreAligned_of_follows (aligned : coreAligned votes) : coreAligned others := by
  unfold coreAligned at *
  rw [List.all_eq_true] at *
  intro id core
  obtain ⟨buys, confident⟩ := of_decide_eq_true (aligned id core)
  have positive := (show (0 : ℚ) < coreBuyConfidence by norm_num [coreBuyConfidence]).trans_le
    confident
  obtain ⟨stillBuys, more⟩ := (follows id).buys buys positive
  exact decide_eq_true ⟨stillBuys, confident.trans more⟩

theorem enoughBuys_of_follows (enough : enoughBuys votes) : enoughBuys others := by
  have more := buyVotes_le follows
  unfold enoughBuys at *
  rw [decide_eq_true_eq] at *
  rcases enough with many | ⟨aligned, two⟩
  · exact Or.inl (many.trans more)
  · exact Or.inr ⟨coreAligned_of_follows follows aligned, two.trans more⟩

theorem vetoedBy_of_follows (unvetoed : vetoedBy votes = none) : vetoedBy others = none := by
  unfold vetoedBy counted at *
  rw [List.find?_eq_none] at *
  intro id member vetoes
  obtain ⟨agent, counts⟩ := List.mem_filter.mp member
  have isVeto := of_decide_eq_true vetoes
  have same := (follows id).avoids isVeto.1
  rw [same] at counts isVeto
  exact unvetoed id (List.mem_filter.mpr ⟨agent, counts⟩) (decide_eq_true isVeto)

end

theorem counted_ne_nil (enough : enoughBuys votes) : counted votes ≠ [] := by
  intro none
  have noBuys : buyVotes votes = 0 := by
    refine List.length_eq_zero_iff.mpr (List.filter_eq_nil_iff.mpr fun id agent buys => ?_)
    have positive := (of_decide_eq_true buys).2
    have counts := List.filter_eq_nil_iff.mp none id agent
    exact counts (decide_eq_true positive.ne')
  unfold enoughBuys at enough
  rw [decide_eq_true_eq, noBuys] at enough
  rcases enough with few | ⟨-, few⟩
  · exact absurd few (by decide)
  · exact absurd few (by decide)

theorem councilAction_of_follows {risk : RiskDecision}
    (follows : ∀ id, Follows (votes id) (others id))
    (brings : ∀ id, contribution (accuracy id) (2 * threshold - 1) (votes id) ≤
      contribution (accuracy id) (2 * threshold - 1) (others id))
    (bought : councilAction risk votes accuracy threshold = .buy) :
    councilAction risk others accuracy threshold = .buy := by
  unfold councilAction at *
  split at bought
  · next agreed =>
    obtain ⟨unblocked, analyst, reaches, enough, unvetoed⟩ := agreed
    have stillEnough := enoughBuys_of_follows follows enough
    refine if_pos ⟨unblocked, analyst, ?_, stillEnough, vetoedBy_of_follows follows unvetoed⟩
    have surplus := (le_consensus_iff (counted_ne_nil enough)).mp reaches
    exact (le_consensus_iff (counted_ne_nil stillEnough)).mpr
      (surplus.trans (List.sum_le_sum fun id _ => brings id))
  · cases bought

end Action

/-! ### More confidence -/

section Raise

variable {id : CouncilAgentId} {lower higher threshold : ℚ}

theorem follows_buy (le : lower ≤ higher) : Follows (applyConfidenceGates id ⟨.buy, lower⟩)
    (applyConfidenceGates id ⟨.buy, higher⟩) where
  buys isBuy positive := by
    obtain ⟨isBefore, isAfter⟩ := stillBuys le isBuy positive
    rw [isBefore, isAfter]
    exact ⟨rfl, le⟩
  avoids isAvoid := absurd isAvoid (applyConfidenceGates_ne_avoid id higher)

theorem contribution_le (le : lower ≤ higher) (steady : ¬ Dilutes id threshold lower higher)
    (accuracyPct : Option ℚ) :
    contribution accuracyPct (2 * threshold - 1) (applyConfidenceGates id ⟨.buy, lower⟩) ≤
      contribution accuracyPct (2 * threshold - 1) (applyConfidenceGates id ⟨.buy, higher⟩) := by
  have weighs := (accuracyWeight_pos accuracyPct).le
  obtain ⟨joins, leaves⟩ := not_or.mp steady
  unfold contribution
  split
  · next uncounted =>
    split
    · exact le_rfl
    · next counts =>
      have above := not_lt.mp fun below => joins ⟨uncounted, counts, below⟩
      exact mul_nonneg (sub_nonneg.mpr above) weighs
  · next counts =>
    split
    · next uncounted =>
      have below := not_lt.mp fun above => leaves ⟨counts, uncounted, above⟩
      exact mul_nonpos_of_nonpos_of_nonneg (sub_nonpos.mpr below) weighs
    · next stillCounts =>
      exact mul_le_mul_of_nonneg_right
        (sub_le_sub_right (voteScore_mono le counts stillCounts) _) weighs

theorem keepsBuys : KeepsBuys Dilutes := by
  intro risk raw accuracy threshold id higher isBuy le steady bought
  have isVote : raw id = ⟨.buy, (raw id).confidence⟩ := by rw [← isBuy]
  refine councilAction_of_follows (fun other => ?_) (fun other => ?_) bought
  all_goals
    rcases eq_or_ne other id with rfl | different
  · unfold gated withBuy
    rw [Function.update_self, isVote]
    exact follows_buy le
  · unfold gated withBuy
    rw [Function.update_of_ne different]
    exact Follows.refl _
  · unfold gated withBuy
    rw [Function.update_self, isVote]
    exact contribution_le le steady _
  · unfold gated withBuy
    rw [Function.update_of_ne different]

theorem keepsCouncilBuys : KeepsCouncilBuys := by
  intro risk raw accuracy winRate id higher isBuy nonneg le unexcepted bought
  exact keepsBuys risk raw accuracy (adaptiveThreshold winRate) id higher isBuy le
    (not_dilutes (adaptiveThreshold_le winRate) nonneg unexcepted le) bought

end Raise

/-- How the council follows its agents: every rise in the confidence of a BUY keeps a BUY, but for
those by which the vote comes to dilute the consensus. -/
theorem council_followsConfidence :
    KeepsBuys Dilutes ∧ KeepsCouncilBuys ∧ ConsensusIsShare :=
  ⟨keepsBuys, keepsCouncilBuys, consensusIsShare⟩

/-- Three agents buy, one avoids, and the technical analyst would buy. -/
def wavering (technical : ℚ) : CouncilAgentId → AgentVote
  | .sentiment | .llm | .orderbook => ⟨.buy, 65 / 100⟩
  | .volatility => ⟨.avoid, 70 / 100⟩
  | .technical => ⟨.buy, technical⟩
  | .momentum | .risk => ⟨.hold, 0⟩

/-- Seventy per cent confidence of the technical analyst costs the trade that fifty leaves. -/
theorem not_keepsBuys : ¬ KeepsBuys fun _ _ _ _ => False := by
  intro keeps
  have bought := keeps { defaultDecision .riskError none none with action := .buy, blocked := none }
    (wavering (50 / 100)) (fun _ => none) baseThreshold .technical (70 / 100) rfl
    (by decide +kernel) id (by decide +kernel)
  have held : councilAction
      { defaultDecision .riskError none none with action := .buy, blocked := none }
      (gated (withBuy (wavering (50 / 100)) .technical (70 / 100))) (fun _ => none)
      baseThreshold ≠ .buy := by
    decide +kernel
  exact held bought

end GdslExchange.SuperMachine
