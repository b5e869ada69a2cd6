/-
This file models how the providers hub sums its providers up: the direction with the most weighted
confidence is the consensus, and the confidence of a BUY says how much of the capital goes into it.
A BUY provider that is surer never makes the consensus less of a BUY, and never makes the share
smaller.
-/

import GdslExchange.Signals.TradeAdvisor
import Mathlib.Algebra.Order.BigOperators.Group.List
import Mathlib.Tactic.Linarith

namespace GdslExchange.Signals.ProvidersHub

open SignalDirection

/-- The fields of a `SignalProvider` that are read here. -/
structure Provider where
  name : String
  signal : SignalDirection
  confidence : ℚ
  weight : Option ℚ
  confident : 0 ≤ confidence ∧ confidence ≤ 1
  weight_pos : ∀ given ∈ weight, 0 < given

def clamp01 (v : ℚ) : ℚ := max 0 (min 1 v)

/-- `p.weight ?? 1`. -/
def Provider.ownWeight (provider : Provider) : ℚ := provider.weight.getD 1

def weighted (providers : List Provider) (signal : SignalDirection) : ℚ :=
  ((providers.filter fun provider => provider.signal = signal).map fun provider =>
    clamp01 provider.confidence * provider.ownWeight).sum

def totalWeight (providers : List Provider) : ℚ := (providers.map Provider.ownWeight).sum

structure Consensus where
  signal : SignalDirection
  confidence : ℚ
  counts : SignalDirection → ℕ

/-- `Math.max(weighted.BUY, weighted.SELL, weighted.HOLD)`. -/
def most (score : SignalDirection → ℚ) : ℚ := max (max (score .buy) (score .sell)) (score .hold)

/-- The only direction with the most, or HOLD when there are several. -/
def winnerOf (score : SignalDirection → ℚ) : SignalDirection :=
  match [buy, sell, hold].filter fun signal => score signal = most score with
  | [winner] => winner
  | _ => .hold

def consensusOf (providers : List Provider) : Consensus :=
  let counts signal := providers.countP fun provider => provider.signal = signal
  if totalWeight providers = 0 ∨ providers.length = 0 then ⟨.hold, 0, counts⟩
  else
    ⟨winnerOf (weighted providers), clamp01 (most (weighted providers) / totalWeight providers),
      counts⟩

inductive SizingLabel where
  | avoid
  | small
  | moderate
  | aggressive
deriving DecidableEq

inductive Invest where
  | yes
  | wait
  | no
deriving DecidableEq

/-- What a recommendation warns of: longs should be exited, only so many providers report, or the
price has moved by so many percent in a day. -/
inductive RiskNote where
  | exitLongs
  | fewProviders (reporting : ℕ)
  | extremeMove (change24hPct : ℚ)

structure Sizing where
  sizingPct : ℚ
  sizingLabel : SizingLabel
  invest : Invest

structure Recommendation extends Sizing where
  action : SignalDirection
  /-- The name, the signal and the percent of confidence of every provider. -/
  rationale : List (String × SignalDirection × ℤ)
  riskNotes : List RiskNote
  capitalFraction : ℚ

/-- The size by the consensus, if enough providers report. -/
def sizingOf (consensus : Consensus) (haveQuorum : Prop) [Decidable haveQuorum] : Sizing :=
  if consensus.signal = .buy ∧ haveQuorum then
    if consensus.confidence ≥ 7 / 10 then ⟨4, .aggressive, .yes⟩
    else if consensus.confidence ≥ 5 / 10 then ⟨5 / 2, .moderate, .yes⟩
    else if consensus.confidence ≥ 35 / 100 then ⟨1, .small, .yes⟩
    else ⟨0, .avoid, .wait⟩
  else if consensus.signal = .sell ∧ haveQuorum then ⟨0, .avoid, .no⟩
  else ⟨0, .avoid, .wait⟩

/-- The size after a day of extreme volatility. -/
def Sizing.halved (sizing : Sizing) : Sizing where
  sizingPct := sizing.sizingPct * (1 / 2)
  sizingLabel := match sizing.sizingLabel with
    | .aggressive => .moderate
    | .moderate => .small
    | label => label
  invest := sizing.invest

/-- A move of more than twelve percent. -/
def Volatile (change24hPct : Option ℚ) : Prop := ∃ change ∈ change24hPct, 12 < |change|

instance (change24hPct : Option ℚ) : Decidable (Volatile change24hPct) := by
  cases change24hPct with
  | none => exact isFalse nofun
  | some change => exact decidable_of_iff (12 < |change|) (by simp [Volatile])

def recommendationFrom (providers : List Provider) (consensus : Consensus)
    (change24hPct : Option ℚ) : Recommendation :=
  let haveQuorum := 4 ≤ providers.length
  let sizing := if Volatile change24hPct then (sizingOf consensus haveQuorum).halved
    else sizingOf consensus haveQuorum
  { sizing with
    action := consensus.signal
    rationale := providers.map fun provider =>
      (provider.name, provider.signal, ⌊provider.confidence * 100 + 1 / 2⌋)
    riskNotes :=
      (if consensus.signal = .sell ∧ haveQuorum then [.exitLongs]
        else if haveQuorum then [] else [.fewProviders providers.length]) ++
      (change24hPct.toList.filter fun change => 12 < |change|).map .extremeMove
    capitalFraction := sizing.sizingPct / 100 }

/-! ### Weights -/

theorem clamp01_le_clamp01 {low high : ℚ} (le : low ≤ high) : clamp01 low ≤ clamp01 high :=
  max_le_max le_rfl (min_le_min le_rfl le)

theorem Provider.ownWeight_pos (provider : Provider) : 0 < provider.ownWeight := by
  unfold ownWeight
  rcases isWeight : provider.weight with _ | given
  · exact one_pos
  · exact provider.weight_pos given isWeight

theorem totalWeight_pos {providers : List Provider} (nonempty : providers ≠ []) :
    0 < totalWeight providers := by
  refine List.sum_pos _ (fun weight member => ?_) (by simpa using nonempty)
  obtain ⟨provider, -, rfl⟩ := List.mem_map.mp member
  exact provider.ownWeight_pos

theorem clamp01_mul_nonneg (provider : Provider) :
    0 ≤ clamp01 provider.confidence * provider.ownWeight :=
  mul_nonneg (le_max_left _ _) provider.ownWeight_pos.le

theorem winnerOf_eq_buy_iff {score : SignalDirection → ℚ} :
    winnerOf score = .buy ↔ score .sell < score .buy ∧ score .hold < score .buy := by
  have buys : score .buy ≤ most score := (le_max_left _ _).trans (le_max_left _ _)
  have sells : score .sell ≤ most score := (le_max_right _ _).trans (le_max_left _ _)
  have holds : score .hold ≤ most score := le_max_right _ _
  have reached : score .buy = most score ∨ score .sell = most score ∨ score .hold = most score := by
    unfold most
    rcases max_choice (max (score .buy) (score .sell)) (score .hold) with isMost | isMost
    · rcases max_choice (score .buy) (score .sell) with isMore | isMore
      · exact Or.inl (by rw [isMost, isMore])
      · exact Or.inr (Or.inl (by rw [isMost, isMore]))
    · exact Or.inr (Or.inr isMost.symm)
  unfold winnerOf
  by_cases isBuy : score .buy = most score
  · by_cases isSell : score .sell = most score
    · have tied : ¬ score .sell < score .buy := by rw [isBuy, isSell]; exact lt_irrefl _
      by_cases isHold : score .hold = most score <;> simp [isBuy, isSell, isHold]
    · have beaten := lt_of_le_of_ne sells isSell
      by_cases isHold : score .hold = most score
      · simp [isBuy, isSell, isHold]
      · simp [isBuy, isSell, isHold, beaten, lt_of_le_of_ne holds isHold]
  · have less := lt_of_le_of_ne buys isBuy
    by_cases isSell : score .sell = most score
    · by_cases isHold : score .hold = most score <;>
        simp [isBuy, isSell, isHold, buys]
    · have isHold := (reached.resolve_left isBuy).resolve_left isSell
      simp [isBuy, isSell, isHold, buys]

theorem consensusOf_of_ne_nil {providers : List Provider} (nonempty : providers ≠ []) :
    (consensusOf providers).signal = winnerOf (weighted providers) ∧
      (consensusOf providers).confidence =
        clamp01 (most (weighted providers) / totalWeight providers) := by
  unfold consensusOf
  rw [if_neg (by simp [(totalWeight_pos nonempty).ne', nonempty])]
  exact ⟨rfl, rfl⟩

theorem weighted_append (front back : List Provider) (signal : SignalDirection) :
    weighted (front ++ back) signal = weighted front signal + weighted back signal := by
  unfold weighted
  rw [List.filter_append, List.map_append, List.sum_append]

theorem weighted_cons (provider : Provider) (rest : List Provider) (signal : SignalDirection) :
    weighted (provider :: rest) signal =
      (if provider.signal = signal then clamp01 provider.confidence * provider.ownWeight else 0) +
        weighted rest signal := by
  unfold weighted
  rw [List.filter_cons]
  split_ifs with isSignal isSignal' isSignal'
  · rw [List.map_cons, List.sum_cons]
  · exact absurd (of_decide_eq_true isSignal) isSignal'
  · exact absurd (decide_eq_true isSignal') isSignal
  · rw [zero_add]

/-! ### A provider that is surer, or less sure -/

/-- The same provider with another confidence. -/
def Provider.withConfidence (provider : Provider) (confidence : ℚ)
    (confident : 0 ≤ confidence ∧ confidence ≤ 1) : Provider :=
  { provider with confidence, confident }

section Changed

variable (front back : List Provider) (provider : Provider) {confidence : ℚ}
  (confident : 0 ≤ confidence ∧ confidence ≤ 1)

theorem totalWeight_withConfidence :
    totalWeight (front ++ provider.withConfidence confidence confident :: back) =
      totalWeight (front ++ provider :: back) := by
  unfold totalWeight
  rw [List.map_append, List.map_append]
  rfl

theorem weighted_withConfidence_other {signal : SignalDirection}
    (different : provider.signal ≠ signal) :
    weighted (front ++ provider.withConfidence confidence confident :: back) signal =
      weighted (front ++ provider :: back) signal := by
  rw [weighted_append, weighted_append, weighted_cons, weighted_cons, if_neg different]
  exact congrArg _ (congrArg (· + _) (if_neg different))

theorem weighted_le_withConfidence (le : provider.confidence ≤ confidence)
    (signal : SignalDirection) :
    weighted (front ++ provider :: back) signal ≤
      weighted (front ++ provider.withConfidence confidence confident :: back) signal := by
  rw [weighted_append, weighted_append, weighted_cons, weighted_cons]
  have more : (if provider.signal = signal
      then clamp01 provider.confidence * provider.ownWeight else 0) ≤
      if provider.signal = signal then clamp01 confidence * provider.ownWeight else 0 := by
    split_ifs
    · exact mul_le_mul_of_nonneg_right (clamp01_le_clamp01 le) provider.ownWeight_pos.le
    · exact le_rfl
  exact (add_le_add_iff_left _).mpr ((add_le_add_iff_right _).mpr more)

end Changed

theorem sizingPct_nonneg (consensus : Consensus) (haveQuorum : Prop) [Decidable haveQuorum] :
    0 ≤ (sizingOf consensus haveQuorum).sizingPct := by
  unfold sizingOf
  split_ifs <;> norm_num

theorem sizingPct_le {consensus surer : Consensus} {haveQuorum : Prop} [Decidable haveQuorum]
    (buys : consensus.signal = .buy → surer.signal = .buy)
    (confidence : consensus.confidence ≤ surer.confidence) :
    (sizingOf consensus haveQuorum).sizingPct ≤ (sizingOf surer haveQuorum).sizingPct := by
  by_cases isBuy : consensus.signal = .buy ∧ haveQuorum
  · have isSurer : surer.signal = .buy ∧ haveQuorum := ⟨buys isBuy.1, isBuy.2⟩
    unfold sizingOf
    rw [@if_pos _ _ isBuy, @if_pos _ _ isSurer]
    split_ifs
    all_goals linarith
  · have none : (sizingOf consensus haveQuorum).sizingPct = 0 := by
      unfold sizingOf
      rw [if_neg isBuy]
      split_ifs <;> rfl
    rw [none]
    exact sizingPct_nonneg surer haveQuorum

theorem capitalFraction_le {providers others : List Provider} {consensus surer : Consensus}
    (change24hPct : Option ℚ) (sameQuorum : providers.length = others.length)
    (buys : consensus.signal = .buy → surer.signal = .buy)
    (confidence : consensus.confidence ≤ surer.confidence) :
    (recommendationFrom providers consensus change24hPct).capitalFraction ≤
      (recommendationFrom others surer change24hPct).capitalFraction := by
  have pct := @sizingPct_le consensus surer (4 ≤ others.length) _ buys confidence
  unfold recommendationFrom
  simp only [sameQuorum]
  refine div_le_div_of_nonneg_right ?_ (by norm_num)
  split_ifs
  · exact mul_le_mul_of_nonneg_right pct (by norm_num)
  · exact pct

/-- A BUY provider that is surer leaves a BUY a BUY, and lowers neither the confidence nor the share
of the capital; a SELL provider that is less sure leaves a BUY a BUY. -/
theorem consensus_monotone (front back : List Provider) (provider : Provider) (confidence : ℚ)
    (confident : 0 ≤ confidence ∧ confidence ≤ 1) (change24hPct : Option ℚ) :
    let providers := front ++ provider :: back
    let changed := front ++ provider.withConfidence confidence confident :: back
    (provider.signal = .buy → provider.confidence ≤ confidence →
      ((consensusOf providers).signal = .buy → (consensusOf changed).signal = .buy) ∧
      (consensusOf providers).confidence ≤ (consensusOf changed).confidence ∧
      (recommendationFrom providers (consensusOf providers) change24hPct).capitalFraction ≤
        (recommendationFrom changed (consensusOf changed) change24hPct).capitalFraction) ∧
    (provider.signal = .sell → confidence ≤ provider.confidence →
      (consensusOf providers).signal = .buy → (consensusOf changed).signal = .buy) := by
  intro providers changed
  have before := @consensusOf_of_ne_nil providers (by simp [providers])
  have after := @consensusOf_of_ne_nil changed (by simp [changed])
  rw [before.1, before.2, after.1, after.2, winnerOf_eq_buy_iff, winnerOf_eq_buy_iff]
  have share {low high : SignalDirection → ℚ} (le : most low ≤ most high) :
      clamp01 (most low / totalWeight providers) ≤ clamp01 (most high / totalWeight changed) := by
    rw [show totalWeight changed = totalWeight providers from totalWeight_withConfidence ..]
    exact clamp01_le_clamp01 (div_le_div_of_nonneg_right le (totalWeight_pos (by simp [providers])).le)
  constructor
  · intro isBuy le
    have more := weighted_le_withConfidence front back provider confident le
    have sellsSame : weighted changed .sell = weighted providers .sell :=
      weighted_withConfidence_other front back provider confident (by rw [isBuy]; decide)
    have holdsSame : weighted changed .hold = weighted providers .hold :=
      weighted_withConfidence_other front back provider confident (by rw [isBuy]; decide)
    have buys : weighted providers .sell < weighted providers .buy ∧
        weighted providers .hold < weighted providers .buy →
        weighted changed .sell < weighted changed .buy ∧
          weighted changed .hold < weighted changed .buy := by
      rintro ⟨sells, holds⟩
      exact ⟨sellsSame.trans_lt (sells.trans_le (more .buy)),
        holdsSame.trans_lt (holds.trans_le (more .buy))⟩
    have surer := share (max_le_max (max_le_max (more .buy) (more .sell)) (more .hold))
    refine ⟨buys, surer, capitalFraction_le change24hPct ?_ ?_ ?_⟩
    · simp [providers, changed]
    · rw [before.1, after.1, winnerOf_eq_buy_iff, winnerOf_eq_buy_iff]
      exact buys
    · rw [before.2, after.2]
      exact surer
  · rintro isSell le ⟨sells, holds⟩
    have buysSame : weighted changed .buy = weighted providers .buy :=
      weighted_withConfidence_other front back provider confident (by rw [isSell]; decide)
    have holdsSame : weighted changed .hold = weighted providers .hold :=
      weighted_withConfidence_other front back provider confident (by rw [isSell]; decide)
    have less := weighted_le_withConfidence front back
      (provider.withConfidence confidence confident) provider.confident le .sell
    rw [show (provider.withConfidence confidence confident).withConfidence provider.confidence
      provider.confident = provider from rfl] at less
    rw [buysSame, holdsSame]
    exact ⟨less.trans_lt sells, holds⟩

private theorem half_confident : 0 ≤ (1 / 2 : ℚ) ∧ (1 / 2 : ℚ) ≤ 1 := by norm_num

def halfSure (signal : SignalDirection) : Provider :=
  ⟨"provider", signal, 1 / 2, none, half_confident, nofun⟩

/-- The last of three BUY providers is sure after all. -/
theorem consensus_monotone_lastSure :
    let providers := [.hold, .buy, .buy].map halfSure ++ halfSure .buy :: []
    let changed := [.hold, .buy, .buy].map halfSure ++
      (halfSure .buy).withConfidence 1 ⟨zero_le_one, le_rfl⟩ :: []
    (recommendationFrom providers (consensusOf providers) none).capitalFraction ≤
      (recommendationFrom changed (consensusOf changed) none).capitalFraction :=
  ((consensus_monotone _ [] (halfSure .buy) 1 ⟨zero_le_one, le_rfl⟩ none).1 rfl
    half_confident.2).2.2

end GdslExchange.Signals.ProvidersHub
