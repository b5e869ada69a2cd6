/-
This file models the estimate of what a lot nets when it is sold, which the gates of the automatic
exits ask for, and settles when it is a bound on what the sale nets at the worst fill that the
slippage allows.

The estimate takes the slippage off the gain, while the slippage of a sale is on its proceeds: the
estimate is too high by the slippage on the allocation, and grows with the slippage of a loss.
-/

import GdslExchange.Numeric.Fixed

namespace GdslExchange.Portfolio

open Numeric

/-! ### The estimate -/

def bscDexRoundTripGasUsd : ℚ := 9 / 100

def solanaDexRoundTripFeeUsd : ℚ := 15 / 1000

/-- `1 - Math.min(2000, Math.max(0, slippageBps)) / 10_000`. -/
def slipFactor (slippageBps : ℚ) : ℚ := 1 - min 2000 (max 0 slippageBps) / 10000

def netAfterSlippage (buyAllocUsd entryPrice quotedExitPrice slippageBps gasUsd : ℚ) : ℚ :=
  let gross := buyAllocUsd * (quotedExitPrice / entryPrice - 1)
  gross * slipFactor slippageBps - gasUsd

def estimatedNet (rounding : ℚ → ℚ)
    (buyAllocUsd entryPrice quotedExitPrice slippageBps gasUsd : ℚ) : ℚ :=
  if buyAllocUsd ≤ 0 ∨ entryPrice ≤ 0 ∨ quotedExitPrice ≤ 0 then -gasUsd
  else rounding (netAfterSlippage buyAllocUsd entryPrice quotedExitPrice slippageBps gasUsd)

def estimatedNetRoundTripUsd : ℚ → ℚ → ℚ → ℚ → ℚ → ℚ := estimatedNet (roundTo 8)

theorem estimatedNet_eq {rounding : ℚ → ℚ}
    {buyAllocUsd entryPrice quotedExitPrice slippageBps gasUsd : ℚ} (funded : 0 < buyAllocUsd)
    (priced : 0 < entryPrice) (quoted : 0 < quotedExitPrice) :
    estimatedNet rounding buyAllocUsd entryPrice quotedExitPrice slippageBps gasUsd =
      rounding (netAfterSlippage buyAllocUsd entryPrice quotedExitPrice slippageBps gasUsd) :=
  if_neg (not_or.mpr ⟨not_le.mpr funded, not_or.mpr ⟨not_le.mpr priced, not_le.mpr quoted⟩⟩)

/-- At least four fifths are left. -/
theorem slipFactor_pos (slippageBps : ℚ) : 0 < slipFactor slippageBps := by
  have capped : min 2000 (max 0 slippageBps) ≤ 2000 := min_le_left _ _
  unfold slipFactor
  linarith

/-- Within its range the slippage is taken as it is. -/
theorem slipFactor_eq {slippageBps : ℚ} (nonneg : 0 ≤ slippageBps) (capped : slippageBps ≤ 2000) :
    slipFactor slippageBps = 1 - slippageBps / 10000 := by
  unfold slipFactor
  rw [max_eq_right nonneg, min_eq_right capped]

/-! ### A lot and a quote for it -/

/-- A lot, a price that is quoted for it, and the slippage and the gas of its sale. -/
structure QuotedExit where
  allocation : ℚ
  entry : ℚ
  quoted : ℚ
  slippageBps : ℚ
  gasUsd : ℚ
  allocation_pos : 0 < allocation
  entry_pos : 0 < entry
  quoted_pos : 0 < quoted
  slippageBps_nonneg : 0 ≤ slippageBps
  slippageBps_le : slippageBps ≤ 2000

namespace QuotedExit

variable (exit : QuotedExit)

def estimate (slippageBps : ℚ) : ℚ :=
  estimatedNetRoundTripUsd exit.allocation exit.entry exit.quoted slippageBps exit.gasUsd

/-- What a sale at a price nets. -/
def netAt (fill : ℚ) : ℚ := exit.allocation * (fill / exit.entry - 1) - exit.gasUsd

def worstFill : ℚ := exit.quoted * (1 - exit.slippageBps / 10000)

/-- The estimate at the slippage of the exit, before it is rounded. -/
def exactEstimate (slippageBps : ℚ) : ℚ :=
  netAfterSlippage exit.allocation exit.entry exit.quoted slippageBps exit.gasUsd

/-- A fill that the slippage allows nets whatever the estimate reaches, up to the rounding. -/
def IsLowerBound : Prop :=
  ∀ minimum fill, minimum ≤ exit.estimate exit.slippageBps → exit.worstFill ≤ fill →
    minimum - 1 / 10 ^ 8 ≤ exit.netAt fill

/-- The estimate does not rise with the slippage. -/
def NeverRises : Prop :=
  ∀ wider, exit.slippageBps ≤ wider → wider ≤ 2000 →
    exit.estimate wider ≤ exit.estimate exit.slippageBps

/-- The slippage on the allocation is lost in the rounding: it is at most its unit, less what it has
added to the estimate. -/
def SlippageLost : Prop :=
  exit.allocation * (exit.slippageBps / 10000) ≤
    1 / 10 ^ 8 - (roundTo 8 (exit.exactEstimate exit.slippageBps) -
      exit.exactEstimate exit.slippageBps)

/-- What a wider slippage takes off a loss is lost in the rounding. -/
def ReliefLost : Prop :=
  roundTo 8 (exit.exactEstimate 2000) = roundTo 8 (exit.exactEstimate exit.slippageBps)

variable {exit}

theorem estimate_eq (slippageBps : ℚ) :
    exit.estimate slippageBps = roundTo 8 (exit.exactEstimate slippageBps) :=
  estimatedNet_eq exit.allocation_pos exit.entry_pos exit.quoted_pos

theorem netAt_mono {lower higher : ℚ} (le : lower ≤ higher) : exit.netAt lower ≤ exit.netAt higher := by
  have ratio := (div_le_div_iff_of_pos_right exit.entry_pos).mpr le
  have gain := mul_le_mul_of_nonneg_left (sub_le_sub_right ratio 1) exit.allocation_pos.le
  unfold netAt
  linarith

theorem netAt_worstFill : exit.netAt exit.worstFill =
    exit.exactEstimate exit.slippageBps - exit.allocation * (exit.slippageBps / 10000) := by
  unfold netAt worstFill exactEstimate netAfterSlippage
  rw [slipFactor_eq exit.slippageBps_nonneg exit.slippageBps_le]
  ring

theorem isLowerBound_iff : exit.IsLowerBound ↔ exit.SlippageLost := by
  have worst := @netAt_worstFill exit
  unfold IsLowerBound SlippageLost
  rw [estimate_eq]
  constructor
  · intro bound
    have reached := bound _ exit.worstFill le_rfl le_rfl
    linarith
  · intro lost minimum fill reached allowed
    have better := @netAt_mono exit _ _ allowed
    linarith

theorem exactEstimate_sub {wider : ℚ} (isWider : exit.slippageBps ≤ wider) (capped : wider ≤ 2000) :
    exit.exactEstimate wider - exit.exactEstimate exit.slippageBps =
      exit.allocation * (1 - exit.quoted / exit.entry) * ((wider - exit.slippageBps) / 10000) := by
  unfold exactEstimate netAfterSlippage
  rw [slipFactor_eq exit.slippageBps_nonneg exit.slippageBps_le,
    slipFactor_eq (exit.slippageBps_nonneg.trans isWider) capped]
  ring

theorem exactEstimate_le {wider : ℚ} (gains : exit.entry ≤ exit.quoted)
    (isWider : exit.slippageBps ≤ wider) (capped : wider ≤ 2000) :
    exit.exactEstimate wider ≤ exit.exactEstimate exit.slippageBps := by
  have change := exactEstimate_sub isWider capped
  have ratio : 1 ≤ exit.quoted / exit.entry := (one_le_div exit.entry_pos).mpr gains
  have loss : exit.allocation * (1 - exit.quoted / exit.entry) ≤ 0 :=
    mul_nonpos_of_nonneg_of_nonpos exit.allocation_pos.le (by linarith)
  have widening : 0 ≤ (wider - exit.slippageBps) / 10000 := by linarith
  have product := mul_nonpos_of_nonpos_of_nonneg loss widening
  linarith

/-- Of a loss a wider slippage leaves no less taken off. -/
theorem le_exactEstimate {narrower wider : ℚ} (loses : exit.quoted ≤ exit.entry)
    (nonneg : 0 ≤ narrower) (isWider : narrower ≤ wider) (capped : wider ≤ 2000) :
    exit.exactEstimate narrower ≤ exit.exactEstimate wider := by
  have ratio : exit.quoted / exit.entry ≤ 1 := (div_le_one exit.entry_pos).mpr loses
  have loss : exit.allocation * (exit.quoted / exit.entry - 1) ≤ 0 :=
    mul_nonpos_of_nonneg_of_nonpos exit.allocation_pos.le (by linarith)
  have factor : slipFactor wider ≤ slipFactor narrower := by
    rw [slipFactor_eq (nonneg.trans isWider) capped, slipFactor_eq nonneg (isWider.trans capped)]
    linarith
  have product := mul_le_mul_of_nonpos_left factor loss
  unfold exactEstimate netAfterSlippage
  linarith

theorem neverRises_iff : exit.NeverRises ↔ exit.entry ≤ exit.quoted ∨ exit.ReliefLost := by
  unfold NeverRises ReliefLost
  simp only [estimate_eq]
  constructor
  · intro falls
    by_cases gains : exit.entry ≤ exit.quoted
    · exact .inl gains
    · have rises := roundTo_mono 8 (le_exactEstimate (not_le.mp gains).le exit.slippageBps_nonneg
        exit.slippageBps_le le_rfl)
      exact .inr (le_antisymm (falls 2000 exit.slippageBps_le le_rfl) rises)
  · rintro (gains | lost) wider isWider capped
    · exact roundTo_mono 8 (exactEstimate_le gains isWider capped)
    · by_cases gains : exit.entry ≤ exit.quoted
      · exact roundTo_mono 8 (exactEstimate_le gains isWider capped)
      · rw [← lost]
        exact roundTo_mono 8 (le_exactEstimate (not_le.mp gains).le
          (exit.slippageBps_nonneg.trans isWider) capped le_rfl)

/-- The estimate is a bound that does not rise with the slippage where the slippage on the
allocation is lost in the rounding, and the quote is no loss, or what is taken off the loss is lost
as well. -/
theorem bounds_iff : exit.IsLowerBound ∧ exit.NeverRises ↔
    exit.SlippageLost ∧ (exit.entry ≤ exit.quoted ∨ exit.ReliefLost) :=
  and_congr isLowerBound_iff neverRises_iff

end QuotedExit

private theorem gainingExit_allocation : (0 : ℚ) < 100 := by
  norm_num

private theorem gainingExit_entry : (0 : ℚ) < 1 := by
  norm_num

private theorem gainingExit_quoted : (0 : ℚ) < 102 / 100 := by
  norm_num

private theorem gainingExit_slippage_nonneg : (0 : ℚ) ≤ 100 := by
  norm_num

private theorem gainingExit_slippage_le : (100 : ℚ) ≤ 2000 := by
  norm_num

/-- A hundred dollars of a token that is quoted two per cent above its entry, with a slippage of one
per cent. -/
def gainingExit : QuotedExit where
  allocation := 100
  entry := 1
  quoted := 102 / 100
  slippageBps := 100
  gasUsd := solanaDexRoundTripFeeUsd
  allocation_pos := gainingExit_allocation
  entry_pos := gainingExit_entry
  quoted_pos := gainingExit_quoted
  slippageBps_nonneg := gainingExit_slippage_nonneg
  slippageBps_le := gainingExit_slippage_le

/-- The estimate clears a minimum of one dollar, and the worst fill nets less. -/
theorem not_bounds_gainingExit : ¬ (gainingExit.IsLowerBound ∧ gainingExit.NeverRises) := by
  rintro ⟨bound, -⟩
  have reached := bound 1 gainingExit.worstFill (by decide +kernel) le_rfl
  exact absurd reached (by decide +kernel)

end GdslExchange.Portfolio
