/-
This file settles when the lot-size adjustment only rounds down: when the quantity holds whole
steps that reach the smallest lot, or no lot lies within the limits.
-/

import GdslExchange.Orders.Lots

namespace GdslExchange.Orders

open Numeric

namespace SymbolRules

variable {rules : SymbolRules} {quantity : ℚ}

/-- A quantity is rounded down to whole steps within the limits of a lot, by less than a step. The
quantity and the limits are met up to the tolerance of the sizing code. -/
structure RoundedDown (rules : SymbolRules) (quantity lots : ℚ) : Prop where
  whole : rules.Lots lots
  within : rules.Within lots
  atMost : lots ≤ quantity + lotTolerance * rules.lot.stepSize.value
  near : min quantity rules.lot.maxQty.value - rules.lot.stepSize.value < lots

def OnlyRoundsDown (rules : SymbolRules) (quantity : ℚ) : Prop :=
  ∀ adjusted, adjustQuantityToLotSize quantity rules = .ok adjusted →
    rules.RoundedDown quantity adjusted.value

/-- The quantity holds whole steps that reach the smallest lot. -/
def HoldsLot (rules : SymbolRules) (quantity : ℚ) : Prop :=
  ∃ lots, rules.Holds quantity lots ∧ rules.Reaches lots

theorem lt_greatest (positive : 0 < rules.lot.stepSize.value) {greatest : ℚ}
    (isGreatest : IsGreatest {lots | rules.Holds quantity lots} greatest) :
    quantity - rules.lot.stepSize.value < greatest := by
  rw [isGreatest.unique (isGreatest_holds positive)]
  have above := Int.lt_floor_add_one (quantity / rules.lot.stepSize.value + lotTolerance)
  have tolerance : 0 < lotTolerance := by
    unfold lotTolerance
    norm_num
  have steps : quantity / rules.lot.stepSize.value <
      flooredSteps quantity rules.lot.stepSize.value + 1 := by
    unfold flooredSteps
    linarith
  rw [div_lt_iff₀ positive, add_mul, one_mul] at steps
  linarith

theorem least_eq_minQty (positive : 0 < rules.lot.stepSize.value)
    (aligned : rules.Lots rules.lot.minQty.value) {least : ℚ}
    (isLeast : IsLeast {lots | rules.LeastLots lots} least) :
    least = rules.lot.minQty.value := by
  refine isLeast.unique ⟨⟨aligned, ?_⟩, ?_⟩
  · have tolerated : 0 ≤ lotTolerance * rules.lot.stepSize.value :=
      mul_nonneg (by unfold lotTolerance; norm_num) positive.le
    linarith
  · rintro lots ⟨⟨steps, rfl⟩, above⟩
    obtain ⟨minimum, isMinimum⟩ := aligned
    rw [isMinimum] at above ⊢
    have enough : (minimum : ℚ) - lotTolerance ≤ steps :=
      le_of_mul_le_mul_right (by linarith) positive
    have small : lotTolerance < 1 := by
      unfold lotTolerance
      norm_num
    have next : (minimum : ℚ) < steps + 1 := by linarith
    have reached : minimum ≤ steps := Int.lt_add_one_iff.mp (by exact_mod_cast next)
    exact mul_le_mul_of_nonneg_right (by exact_mod_cast reached) positive.le

def hundredThousandths : SymbolRules where
  symbol := "BTCUSDT"
  lot := ⟨⟨1000, 8⟩, ⟨900000000000, 8⟩, ⟨1000, 8⟩⟩
  minNotional := 5

end SymbolRules

end GdslExchange.Orders
