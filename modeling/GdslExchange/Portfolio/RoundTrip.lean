/-
This file models the reading of closed trades: whether the stored profit of a
round trip can be trusted, what is displayed for it, and which rows are noise.

The displayed profit is computed anew from the fills and the allocation that is
left on the row; the stored one is only shown where that cannot be done.
-/

import GdslExchange.Numeric.Fixed
import Mathlib.Algebra.Order.Group.Abs
import Mathlib.Algebra.Order.Field.Basic

namespace GdslExchange.Portfolio

open Numeric

structure RoundTripPnlRow where
  pair : Option String
  pnl : Option ℚ
  allocationUsd : Option ℚ
  entryPrice : Option ℚ
  exitPrice : Option ℚ
  strategyName : Option String

def toNum (value : Option ℚ) : ℚ := value.getD 0

def estimateRoundTripPnlFromFills (row : RoundTripPnlRow) : Option ℚ :=
  let alloc := toNum row.allocationUsd
  let entry := toNum row.entryPrice
  let exit := toNum row.exitPrice
  if alloc ≤ 0 ∨ entry ≤ 0 ∨ exit ≤ 0 then none
  else some (roundTo 8 (alloc * (exit / entry - 1)))

/-- The stored profit and the one from the fills are too far apart, or have different signs. -/
def Disagree (alloc pnl fillEst : ℚ) : Prop :=
  (pnl > alloc * (5 / 1000) ∧ fillEst < -alloc * (5 / 1000)) ∨
    (pnl < -alloc * (5 / 1000) ∧ fillEst > alloc * (5 / 1000)) ∨
      |pnl - fillEst| > max (alloc * (8 / 100)) (1 / 4)

instance (alloc pnl fillEst : ℚ) : Decidable (Disagree alloc pnl fillEst) := by
  unfold Disagree; infer_instance

def isTrustworthyRoundTripPnl (row : RoundTripPnlRow) : Bool :=
  let pnl := toNum row.pnl
  let alloc := toNum row.allocationUsd
  let entry := toNum row.entryPrice
  let exit := toNum row.exitPrice
  if entry ≤ 0 ∨ exit ≤ 0 then false
  else if alloc > 0 ∧ pnl > 0 ∧ pnl ≥ alloc * (85 / 100) ∧ exit < entry * (9995 / 10000) then false
  else if alloc > 0 ∧ pnl < 0 ∧ pnl ≤ -alloc * (85 / 100) ∧ exit > entry * (10005 / 10000) then
    false
  else if ∃ fillEst ∈ estimateRoundTripPnlFromFills row, alloc > 0 ∧ Disagree alloc pnl fillEst then
    false
  else
    let pxMove := |exit - entry| / entry
    let pnlFrac := |pnl| / alloc
    if alloc > 0 ∧ pxMove < 25 / 1000 ∧ pnlFrac > 12 / 100 then false
    else if alloc > 0 ∧ pnl > alloc * (12 / 10) then false
    else true

def displayRoundTripPnl (row : RoundTripPnlRow) : ℚ :=
  match estimateRoundTripPnlFromFills row with
  | some fromFills => fromFills
  | none => if isTrustworthyRoundTripPnl row then toNum row.pnl else toNum row.pnl

/-! ### Noise and losses -/

def MAJOR_BASES : List String := ["BTC", "ETH", "SOL", "WBTC", "WETH", "JUP", "BNB", "XRP"]

/-- `(row.pair ?? '').split('/')[0].toUpperCase()`. -/
def RoundTripPnlRow.base (row : RoundTripPnlRow) : String :=
  (String.ofList ((row.pair.getD "").toList.takeWhile (· ≠ '/'))).toUpper

def isCorruptDexFillPrices (row : RoundTripPnlRow) : Bool :=
  let alloc := toNum row.allocationUsd
  let entry := toNum row.entryPrice
  let exit := toNum row.exitPrice
  if alloc ≤ 0 ∨ entry ≤ 0 ∨ exit ≤ 0 then false
  else if row.base ∈ MAJOR_BASES then false
  else if entry > 20 ∧ alloc < 500 then true
  else if exit > 20 ∧ alloc < 500 then true
  else
    let impliedQty := alloc / entry
    if impliedQty > 0 ∧ impliedQty < 2 / 100 ∧ alloc ≥ 5 then true else false

def roundTripGasUsdForStrategy (strategyName : Option String) : ℚ :=
  if strategyName = some "DEX Jupiter SOL" then 15 / 1000 else 9 / 100

def isNoiseClosedTrade (row : RoundTripPnlRow) : Bool :=
  let alloc := toNum row.allocationUsd
  let entry := toNum row.entryPrice
  let exit := toNum row.exitPrice
  let gas := roundTripGasUsdForStrategy row.strategyName
  if alloc > 0 ∧ alloc < 1 / 2 then true
  else if entry > 0 ∧ exit > 0 then
    let pxMove := |exit - entry| / entry
    let magnitude := |(estimateRoundTripPnlFromFills row).getD (toNum row.pnl)|
    if pxMove < 8 / 10000 ∧ magnitude < gas + 1 / 100 then true else false
  else false

def shouldIncludeClosedTradeInPublicLog (row : RoundTripPnlRow) : Bool :=
  !isCorruptDexFillPrices row && !isNoiseClosedTrade row

def PUBLIC_LOG_MAX_LOSSES : ℕ := 2

/-- The trades without the losses after the first few, where so many losses have been kept. -/
def limitLosses {T : Type} (loses : T → Bool) (maxLosses : ℕ) : ℕ → List T → List T
  | _, [] => []
  | lossesKept, trade :: rest =>
    if !loses trade then trade :: limitLosses loses maxLosses lossesKept rest
    else if lossesKept ≥ maxLosses then limitLosses loses maxLosses lossesKept rest
    else trade :: limitLosses loses maxLosses (lossesKept + 1) rest

def displayNetRoundTripPnl (row : RoundTripPnlRow) : ℚ :=
  roundTo 8 (displayRoundTripPnl row - roundTripGasUsdForStrategy row.strategyName)

section Losses

variable {T : Type} {loses : T → Bool} {maxLosses : ℕ}

theorem limitLosses_map {Row : Type} (entry : Row → T) (lossesKept : ℕ) (rows : List Row) :
    limitLosses loses maxLosses lossesKept (rows.map entry) =
      (limitLosses (fun row => loses (entry row)) maxLosses lossesKept rows).map entry := by
  induction rows generalizing lossesKept with
  | nil => rfl
  | cons row rest inductionHypothesis =>
    rw [List.map_cons]
    unfold limitLosses
    split_ifs <;> simp [inductionHypothesis]

theorem limitLosses_sublist (lossesKept : ℕ) (trades : List T) :
    (limitLosses loses maxLosses lossesKept trades).Sublist trades := by
  induction trades generalizing lossesKept with
  | nil => exact List.nil_sublist _
  | cons trade rest inductionHypothesis =>
    unfold limitLosses
    split_ifs
    · exact (inductionHypothesis _).cons_cons trade
    · exact (inductionHypothesis _).cons trade
    · exact (inductionHypothesis _).cons_cons trade

theorem limitLosses_append (lossesKept : ℕ) (first second : List T) :
    limitLosses loses maxLosses lossesKept (first ++ second) =
      limitLosses loses maxLosses lossesKept first ++ limitLosses loses maxLosses
        (max lossesKept (min maxLosses (lossesKept + first.countP loses))) second := by
  induction first generalizing lossesKept with
  | nil =>
    rw [List.countP_nil, Nat.add_zero, max_eq_left (min_le_right _ _)]
    rfl
  | cons trade rest inductionHypothesis =>
    rw [List.cons_append, List.countP_cons]
    simp only [limitLosses]
    by_cases isLoss : loses trade
    · by_cases full : maxLosses ≤ lossesKept
      · simp [isLoss, full, inductionHypothesis]
      · have next : max (lossesKept + 1) (min maxLosses (lossesKept + 1 + rest.countP loses)) =
            max lossesKept (min maxLosses (lossesKept + (rest.countP loses + 1))) := by omega
        simp [isLoss, full, inductionHypothesis, next]
    · simp [isLoss, inductionHypothesis]

theorem limitLosses_eq_self_iff {lossesKept : ℕ} (few : lossesKept ≤ maxLosses) {trades : List T} :
    limitLosses loses maxLosses lossesKept trades = trades ↔
      lossesKept + trades.countP loses ≤ maxLosses := by
  induction trades generalizing lossesKept with
  | nil => simpa [limitLosses] using few
  | cons trade rest inductionHypothesis =>
    rw [List.countP_cons]
    unfold limitLosses
    by_cases isLoss : loses trade
    · by_cases full : maxLosses ≤ lossesKept
      · have shorter : limitLosses loses maxLosses lossesKept rest ≠ trade :: rest := by
          intro same
          have le := (@limitLosses_sublist _ loses maxLosses lossesKept rest).length_le
          rw [same, List.length_cons] at le
          omega
        simp [isLoss, full, shorter]
        omega
      · simp [isLoss, full, inductionHypothesis (Nat.lt_of_not_le full)]
        omega
    · simp [isLoss, inductionHypothesis few]

theorem limitLosses_eq_nil_iff {lossesKept : ℕ} {trades : List T} :
    limitLosses loses maxLosses lossesKept trades = [] ↔
      ∀ trade ∈ trades, loses trade ∧ maxLosses ≤ lossesKept := by
  induction trades with
  | nil => simp [limitLosses]
  | cons trade rest inductionHypothesis =>
    unfold limitLosses
    by_cases isLoss : loses trade
    · by_cases full : maxLosses ≤ lossesKept
      · simp [isLoss, full, inductionHypothesis]
      · exact iff_of_false (by simp [isLoss, full]) fun all => full (all trade List.mem_cons_self).2
    · simp [isLoss]

theorem mem_limitLosses {lossesKept : ℕ} {trades : List T} {trade : T} (member : trade ∈ trades)
    (wins : ¬ loses trade) : trade ∈ limitLosses loses maxLosses lossesKept trades := by
  induction member generalizing lossesKept with
  | head rest =>
    unfold limitLosses
    simp [wins]
  | tail other _ inductionHypothesis =>
    unfold limitLosses
    split_ifs
    · exact List.mem_cons_of_mem _ inductionHypothesis
    · exact inductionHypothesis
    · exact List.mem_cons_of_mem _ inductionHypothesis

end Losses

/-! ### What they amount to -/

section Reading

variable {row : RoundTripPnlRow} {alloc pnl entry exit : ℚ}

theorem display_of_unallocated (unallocated : toNum row.allocationUsd ≤ 0) :
    displayRoundTripPnl row = toNum row.pnl := by
  unfold displayRoundTripPnl estimateRoundTripPnlFromFills
  rw [if_pos (Or.inl unallocated)]
  exact ite_self _

theorem trusted_of_unallocated (unallocated : toNum row.allocationUsd ≤ 0)
    (priced : 0 < toNum row.entryPrice) :
    isTrustworthyRoundTripPnl row = true ↔ 0 < toNum row.exitPrice := by
  have unfunded : ¬ toNum row.allocationUsd > 0 := not_lt.mpr unallocated
  unfold isTrustworthyRoundTripPnl
  simp [unfunded, priced]

theorem pxMove_eq (priced : 0 < entry) : |exit - entry| / entry = |exit / entry - 1| := by
  rw [div_sub_one priced.ne', abs_div, abs_of_pos priced]

/-- A profit that is close to the one from the fills is not of a large lot that went the other
way. -/
theorem small_of_not_disagree {fillEst : ℚ} (large : 1 / 2 ≤ alloc)
    (agree : ¬ Disagree alloc pnl fillEst) : |pnl - fillEst| < alloc * (85 / 100) := by
  have near : |pnl - fillEst| ≤ max (alloc * (8 / 100)) (1 / 4) :=
    not_lt.mp fun far => agree (Or.inr (Or.inr far))
  refine near.trans_lt (max_lt ?_ ?_)
  · linarith
  · linarith

/-- Of the checks on a row of at least half a dollar, those on the direction of the price follow
from the others. -/
theorem trusted_iff (large : 1 / 2 ≤ alloc) (priced : 0 < entry)
    (isAlloc : toNum row.allocationUsd = alloc) (isEntry : toNum row.entryPrice = entry)
    (isExit : toNum row.exitPrice = exit) (isPnl : toNum row.pnl = pnl) :
    isTrustworthyRoundTripPnl row = true ↔ 0 < exit ∧
      ¬ Disagree alloc pnl (roundTo 8 (alloc * (exit / entry - 1))) ∧
        (|exit / entry - 1| < 25 / 1000 → |pnl| ≤ alloc * (12 / 100)) ∧
          pnl ≤ alloc * (12 / 10) := by
  have funded : 0 < alloc := lt_of_lt_of_le (by norm_num) large
  by_cases sold : 0 < exit
  swap
  · refine iff_of_false ?_ fun holds => sold holds.1
    unfold isTrustworthyRoundTripPnl
    rw [isExit, if_pos (Or.inr (not_lt.mp sold))]
    exact Bool.false_ne_true
  have estimate : estimateRoundTripPnlFromFills row =
      some (roundTo 8 (alloc * (exit / entry - 1))) := by
    unfold estimateRoundTripPnlFromFills
    rw [isAlloc, isEntry, isExit, if_neg]
    exact not_or.mpr ⟨not_le.mpr funded, not_or.mpr ⟨not_le.mpr priced, not_le.mpr sold⟩⟩
  have unpriced : ¬ (entry ≤ 0 ∨ exit ≤ 0) := not_or.mpr ⟨not_le.mpr priced, not_le.mpr sold⟩
  unfold isTrustworthyRoundTripPnl
  dsimp only
  rw [isPnl, isAlloc, isEntry, isExit, estimate, if_neg unpriced, pxMove_eq priced]
  set fillEst := roundTo 8 (alloc * (exit / entry - 1)) with isFillEst
  have below : fillEst ≤ alloc * (exit / entry - 1) + 1 / (2 * 10 ^ 8) := roundTo_le 8 _
  have above : alloc * (exit / entry - 1) - 1 / (2 * 10 ^ 8) < fillEst := lt_roundTo 8 _
  simp only [Bool.if_false_left, Bool.and_eq_true, Bool.not_eq_true', decide_eq_false_iff_not,
    Option.mem_some_iff, exists_eq_left', funded, gt_iff_lt, true_and, and_true, sold]
  have share : 12 / 100 < |pnl| / alloc ↔ alloc * (12 / 100) < |pnl| := by
    rw [lt_div_iff₀ funded, mul_comm]
  rw [share]
  constructor
  · rintro ⟨-, -, agree, calm, gain⟩
    exact ⟨agree, fun still => not_lt.mp fun moves => calm ⟨still, moves⟩, not_lt.mp gain⟩
  · rintro ⟨agree, calm, gain⟩
    obtain ⟨notBelow, notAbove⟩ := abs_lt.mp (small_of_not_disagree large agree)
    refine ⟨?_, ?_, agree, fun moves => not_lt.mpr (calm moves.1) moves.2, not_lt.mpr gain⟩
    · rintro ⟨-, proceeds, fell⟩
      have loss : alloc * (exit / entry - 1) ≤ alloc * (9995 / 10000 - 1) := by
        refine mul_le_mul_of_nonneg_left (sub_le_sub_right ?_ 1) funded.le
        rw [div_le_iff₀ priced, mul_comm]
        exact fell.le
      linarith
    · rintro ⟨-, proceeds, rose⟩
      have profit : alloc * (10005 / 10000 - 1) ≤ alloc * (exit / entry - 1) := by
        refine mul_le_mul_of_nonneg_left (sub_le_sub_right ?_ 1) funded.le
        rw [le_div_iff₀ priced, mul_comm]
        exact rose.le
      linarith

end Reading

end GdslExchange.Portfolio
