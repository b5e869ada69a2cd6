/-
This file models the lot-size adjustment of the executor: a base quantity is
floored to the symbol's step, raised to its minimum where it falls below, and
written with the decimals of the step.
-/

import GdslExchange.Numeric.Fixed

namespace GdslExchange.Orders

open Numeric

/-- The lot filter of a symbol, in the decimal text the exchange sends. -/
structure LotFilter where
  minQty : Fixed
  maxQty : Fixed
  stepSize : Fixed
deriving DecidableEq

/-- `ParsedSymbolRules`. -/
structure SymbolRules where
  symbol : String
  lot : LotFilter
  minNotional : ℚ
deriving DecidableEq

/-- `countDecimals`: the places of a numeral once its trailing zeros are gone. -/
def countDecimals (stepSize : Fixed) : ℕ :=
  go stepSize.places stepSize.units
where
  go : ℕ → ℤ → ℕ
    | 0, _ => 0
    | places + 1, units => if units % 10 = 0 then go places (units / 10) else places + 1

/-- The places of a step write it exactly. -/
theorem exists_units_countDecimals (stepSize : Fixed) :
    ∃ units : ℤ, stepSize.value * 10 ^ countDecimals stepSize = units := by
  have exact (places : ℕ) (units : ℤ) :
      ∃ whole : ℤ, (units : ℚ) / 10 ^ places * 10 ^ countDecimals.go places units = whole := by
    induction places generalizing units with
    | zero => exact ⟨units, by simp [countDecimals.go]⟩
    | succ places inductionHypothesis =>
      rw [countDecimals.go]
      by_cases trailing : units % 10 = 0
      · obtain ⟨whole, isWhole⟩ := inductionHypothesis (units / 10)
        refine ⟨whole, ?_⟩
        have tens : (units : ℚ) = (units / 10 : ℤ) * 10 := by
          exact_mod_cast (Int.ediv_mul_cancel (Int.dvd_of_emod_eq_zero trailing)).symm
        rw [if_pos trailing, ← isWhole, tens, pow_succ, mul_div_mul_right _ _ (by norm_num)]
      · refine ⟨units, ?_⟩
        rw [if_neg trailing]
        exact div_mul_cancel₀ _ (by positivity)
  exact exact stepSize.places stepSize.units

/-- The tolerance of the sizing code. -/
def lotTolerance : ℚ := 1 / 10 ^ 12

/-- The number of steps of a quantity, before the minimum is looked at. -/
def flooredSteps (quantity step : ℚ) : ℤ := ⌊quantity / step + lotTolerance⌋

def minimumSteps (minQ step : ℚ) : ℤ := ⌈minQ / step - lotTolerance⌉

def adjustQuantityToLotSize (quantity : ℚ) (rules : SymbolRules) : Except String Fixed :=
  let step := rules.lot.stepSize.value
  let minQ := rules.lot.minQty.value
  let maxQ := rules.lot.maxQty.value
  if step ≤ 0 then .error "Invalid stepSize"
  else
    let floored := flooredSteps quantity step * step
    let q := if floored < minQ - lotTolerance then minimumSteps minQ step * step else floored
    if q > maxQ + lotTolerance then
      .error s!"Quantity {text q} exceeds maxQty {rules.lot.maxQty.render}"
    else if q < minQ - lotTolerance then
      .error s!"Quantity {text q} below minQty {rules.lot.minQty.render} after step rounding"
    else .ok (toFixed (countDecimals rules.lot.stepSize) q)

/-- Whole steps that reach the smallest lot are taken as they are, up to the greatest. -/
theorem adjustQuantityToLotSize_steps {rules : SymbolRules} {steps : ℤ}
    (positive : 0 < rules.lot.stepSize.value)
    (least : rules.lot.minQty.value ≤ steps * rules.lot.stepSize.value) :
    if steps * rules.lot.stepSize.value ≤ rules.lot.maxQty.value + lotTolerance then
      ∃ text, adjustQuantityToLotSize (steps * rules.lot.stepSize.value) rules = .ok text ∧
        text.value = steps * rules.lot.stepSize.value
    else ∃ message,
      adjustQuantityToLotSize (steps * rules.lot.stepSize.value) rules = .error message := by
  have small : (0 : ℚ) ≤ lotTolerance ∧ lotTolerance < 1 := by
    unfold lotTolerance
    norm_num
  have isFloored : flooredSteps (steps * rules.lot.stepSize.value) rules.lot.stepSize.value =
      steps := by
    unfold flooredSteps
    rw [mul_div_cancel_right₀ _ positive.ne', Int.floor_intCast_add,
      Int.floor_eq_zero_iff.mpr small, add_zero]
  have reaches : ¬ steps * rules.lot.stepSize.value < rules.lot.minQty.value - lotTolerance := by
    linarith [small.1]
  obtain ⟨units, isUnits⟩ := exists_units_countDecimals rules.lot.stepSize
  have isText : (toFixed (countDecimals rules.lot.stepSize)
      (steps * rules.lot.stepSize.value)).value = steps * rules.lot.stepSize.value := by
    refine toFixed_value_of_units (steps * units) ?_
    rw [mul_assoc, isUnits]
    push_cast
    rfl
  unfold adjustQuantityToLotSize
  simp only [isFloored, if_neg (not_le.mpr positive), if_neg reaches]
  split
  next within =>
    rw [if_neg (not_lt.mpr within)]
    exact ⟨_, rfl, isText⟩
  next isOver =>
    rw [if_pos (not_le.mp isOver)]
    exact ⟨_, rfl⟩

def notionalForQuantity (quantityStr : Fixed) (price : ℚ) : ℚ := quantityStr.value * price

end GdslExchange.Orders
