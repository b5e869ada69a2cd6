/-
This file models how the Super Machine sizes a BUY: the cap it takes from the
wallet, its record of closed trades, and the factor that confidence and streaks
multiply the cap with.

The factor moves in steps of a twentieth between a half and nine fifths, so the
size stays within the cap exactly where the factor is below one, or where it is
one and the cap is not rounded up.
-/

import GdslExchange.Numeric.Fixed
import Mathlib.Tactic.NormNum
import Mathlib.Tactic.SplitIfs

namespace GdslExchange.SuperMachine

open Numeric

/-! ### The cap -/

def usdcReserveUsd : ℚ := 6

/-- The cap that auto-scan takes from the USDC of the wallet. -/
def walletMaxTradeUsd (usdc : ℚ) : ℚ :=
  if usdc ≤ 0 then 10
  else
    let deployable := max 0 (usdc - usdcReserveUsd)
    if deployable < 8 then max 5 (roundTo 2 deployable)
    else
      let pctCap := roundTo 2 (usdc * (55 / 100))
      max 8 (min deployable pctCap)

theorem walletMaxTradeUsd_le {usdc : ℚ} (enough : 8 + usdcReserveUsd ≤ usdc) :
    walletMaxTradeUsd usdc ≤ usdc - usdcReserveUsd := by
  have reserve : usdcReserveUsd = 6 := rfl
  have deployable : max 0 (usdc - usdcReserveUsd) = usdc - usdcReserveUsd :=
    max_eq_right (by linarith)
  unfold walletMaxTradeUsd
  rw [if_neg (by linarith), deployable]
  rw [if_neg (by linarith)]
  exact max_le (by linarith) (min_le_left _ _)

/-! ### The record -/

inductive StreakType where
  | win
  | loss
  | none
deriving DecidableEq

/-- The fields of `SuperMachineStats` that a tick decides on. -/
structure SuperMachineStats where
  totalTrades : ℕ
  winningTrades : ℕ
  losingTrades : ℕ
  winRate : ℚ
  streak : ℕ
  streakType : StreakType

/-- A trade of the strategy as `getStats` reads it. -/
structure TradeRow where
  isClosed : Bool
  pnl : Option ℚ

def StreakType.goesOn : StreakType → ℚ → Bool
  | win, pnl => pnl > 0
  | loss, pnl => pnl < 0
  | none, _ => false

/-- The streak that the latest closed trades make. -/
def currentStreak : List ℚ → ℕ × StreakType
  | [] => (0, .none)
  | latest :: earlier =>
    let streakType : StreakType := if latest > 0 then .win else .loss
    (1 + (earlier.takeWhile streakType.goesOn).length, streakType)

/-- The stats of the latest trades, latest first. -/
def statsOf (trades : List TradeRow) : SuperMachineStats :=
  let closed := (trades.filter TradeRow.isClosed).map fun trade => trade.pnl.getD 0
  let wins := closed.filter (0 < ·)
  { totalTrades := closed.length
    winningTrades := wins.length
    losingTrades := (closed.filter (· < 0)).length
    winRate := if 0 < closed.length then wins.length / closed.length else 0
    streak := (currentStreak closed).1
    streakType := (currentStreak closed).2 }

/-! ### The size -/

def confidenceStep (confidence : ℚ) : ℚ :=
  if confidence > 7 / 10 then 3 / 10
  else if confidence > 6 / 10 then 15 / 100
  else if confidence < 5 / 10 then -(2 / 10)
  else 0

def winRateStep (winRate : ℚ) : ℚ :=
  if winRate > 6 / 10 then 2 / 10 else if winRate < 4 / 10 then -(2 / 10) else 0

def streakStep (streak : ℕ) (streakType : StreakType) : ℚ :=
  if streakType = .win ∧ 3 ≤ streak then 15 / 100
  else if streakType = .loss ∧ 2 ≤ streak then -(25 / 100)
  else 0

/-- The `multiplier` of `calculateDynamicSize`. -/
def sizeMultiplier (confidence : ℚ) (stats : SuperMachineStats) : ℚ :=
  max (5 / 10) (min (18 / 10)
    (1 + confidenceStep confidence + winRateStep stats.winRate +
      streakStep stats.streak stats.streakType))

def calculateDynamicSize (baseSize confidence : ℚ) (stats : SuperMachineStats) : ℚ :=
  roundTo 2 (baseSize * sizeMultiplier confidence stats)

/-! ### When the size stays within the cap -/

variable {baseSize confidence : ℚ} {stats : SuperMachineStats}

theorem confidenceStep_cases (confidence : ℚ) :
    confidenceStep confidence = 3 / 10 ∨ confidenceStep confidence = 15 / 100 ∨
      confidenceStep confidence = -(2 / 10) ∨ confidenceStep confidence = 0 := by
  unfold confidenceStep
  split_ifs <;> simp

theorem winRateStep_cases (winRate : ℚ) :
    winRateStep winRate = 2 / 10 ∨ winRateStep winRate = -(2 / 10) ∨ winRateStep winRate = 0 := by
  unfold winRateStep
  split_ifs <;> simp

theorem streakStep_cases (streak : ℕ) (streakType : StreakType) :
    streakStep streak streakType = 15 / 100 ∨ streakStep streak streakType = -(25 / 100) ∨
      streakStep streak streakType = 0 := by
  unfold streakStep
  split_ifs <;> simp

/-- The factor is one, or differs from it by at least a twentieth. -/
theorem sizeMultiplier_cases (confidence : ℚ) (stats : SuperMachineStats) :
    sizeMultiplier confidence stats ≤ 95 / 100 ∨ sizeMultiplier confidence stats = 1 ∨
      105 / 100 ≤ sizeMultiplier confidence stats := by
  unfold sizeMultiplier
  rcases confidenceStep_cases confidence with confident | confident | confident | confident <;>
  rcases winRateStep_cases stats.winRate with winning | winning | winning <;>
  rcases streakStep_cases stats.streak stats.streakType with lucky | lucky | lucky <;>
  · rw [confident, winning, lucky]
    norm_num

/-- The factor does not lift the size above the base. A base below ten cents may be rounded down
again. -/
def Tempered (baseSize multiplier : ℚ) : Prop :=
  multiplier < 1 ∧ 1 / 10 ≤ baseSize ∨
    multiplier = 1 ∧ roundTo 2 baseSize ≤ baseSize ∨
    baseSize < 1 / 10 ∧ roundTo 2 (baseSize * multiplier) ≤ baseSize

instance (baseSize multiplier : ℚ) : Decidable (Tempered baseSize multiplier) :=
  inferInstanceAs (Decidable (_ ∨ _ ∨ _))

theorem calculateDynamicSize_le_iff :
    calculateDynamicSize baseSize confidence stats ≤ baseSize ↔
      Tempered baseSize (sizeMultiplier confidence stats) := by
  have above := lt_roundTo 2 (baseSize * sizeMultiplier confidence stats)
  have below := roundTo_le 2 (baseSize * sizeMultiplier confidence stats)
  unfold calculateDynamicSize Tempered
  constructor
  · intro within
    rcases lt_or_ge baseSize (1 / 10) with small | large
    · exact Or.inr (Or.inr ⟨small, within⟩)
    · rcases sizeMultiplier_cases confidence stats with less | same | more
      · exact Or.inl ⟨by linarith, large⟩
      · rw [same, mul_one] at within
        exact Or.inr (Or.inl ⟨same, within⟩)
      · have lifted : baseSize * (105 / 100) ≤ baseSize * sizeMultiplier confidence stats :=
          mul_le_mul_of_nonneg_left more (by linarith)
        norm_num at above
        linarith
  · rintro (⟨less, large⟩ | ⟨same, kept⟩ | ⟨-, within⟩)
    · rcases sizeMultiplier_cases confidence stats with atMost | same | more
      · have lowered : baseSize * sizeMultiplier confidence stats ≤ baseSize * (95 / 100) :=
          mul_le_mul_of_nonneg_left atMost (by linarith)
        norm_num at below
        linarith
      · linarith
      · linarith
    · rw [same, mul_one]
      exact kept
    · exact within

end GdslExchange.SuperMachine
