/-
This file says what the lot-size adjustment makes of a quantity: the greatest number of whole lot
steps that it holds, or the smallest lot where these fall short of it.
-/

import GdslExchange.Orders.LotSize
import Mathlib.Order.Bounds.Basic

namespace GdslExchange.Orders

open Numeric

/-- The quantity that a market order in base is sent with: as it is, where the rules of its symbol
could not be resolved. -/
def marketQuantity (rules : Option SymbolRules) (quantity : ℚ) : Except String ℚ :=
  match rules with
  | none => .ok quantity
  | some rules => (adjustQuantityToLotSize quantity rules).map Fixed.value

theorem eq_ok_of_mem_toOption {answer : Except String ℚ} {sent : ℚ}
    (isSent : sent ∈ answer.toOption) : answer = .ok sent := by
  cases answer with
  | error message => cases isSent
  | ok value => rw [Option.some.inj isSent]

/-! ### Lots -/

namespace SymbolRules

variable (rules : SymbolRules)

def Lots (lots : ℚ) : Prop := ∃ steps : ℤ, lots = steps * rules.lot.stepSize.value

/-- Those that a quantity holds, up to the tolerance of the sizing code. -/
def Holds (quantity lots : ℚ) : Prop :=
  rules.Lots lots ∧ lots ≤ quantity + lotTolerance * rules.lot.stepSize.value

/-- Those that reach the smallest lot, up to that tolerance. -/
def LeastLots (lots : ℚ) : Prop :=
  rules.Lots lots ∧ rules.lot.minQty.value - lotTolerance * rules.lot.stepSize.value ≤ lots

def Reaches (lots : ℚ) : Prop := rules.lot.minQty.value - lotTolerance ≤ lots

/-- The limits of a lot are kept. -/
def Within (lots : ℚ) : Prop := rules.Reaches lots ∧ lots ≤ rules.lot.maxQty.value + lotTolerance

instance (lots : ℚ) : Decidable (rules.Reaches lots) := inferInstanceAs (Decidable (_ ≤ _))

variable {rules} {quantity : ℚ} (positive : 0 < rules.lot.stepSize.value)

include positive

theorem isGreatest_holds :
    IsGreatest {lots | rules.Holds quantity lots}
      (flooredSteps quantity rules.lot.stepSize.value * rules.lot.stepSize.value) := by
  have enough (steps : ℤ) : (steps : ℚ) ≤ quantity / rules.lot.stepSize.value + lotTolerance ↔
      steps * rules.lot.stepSize.value ≤ quantity + lotTolerance * rules.lot.stepSize.value := by
    rw [← mul_le_mul_iff_left₀ positive, add_mul, div_mul_cancel₀ _ positive.ne']
  refine ⟨⟨⟨_, rfl⟩, (enough _).mp (Int.floor_le _)⟩, ?_⟩
  rintro lots ⟨⟨steps, rfl⟩, below⟩
  refine mul_le_mul_of_nonneg_right ?_ positive.le
  exact_mod_cast Int.le_floor.mpr ((enough steps).mpr below)

theorem isLeast_leastLots :
    IsLeast {lots | rules.LeastLots lots}
      (minimumSteps rules.lot.minQty.value rules.lot.stepSize.value *
        rules.lot.stepSize.value) := by
  have enough (steps : ℤ) :
      rules.lot.minQty.value / rules.lot.stepSize.value - lotTolerance ≤ (steps : ℚ) ↔
      rules.lot.minQty.value - lotTolerance * rules.lot.stepSize.value ≤
        steps * rules.lot.stepSize.value := by
    rw [← mul_le_mul_iff_left₀ positive, sub_mul, div_mul_cancel₀ _ positive.ne']
  refine ⟨⟨⟨_, rfl⟩, (enough _).mp (Int.le_ceil _)⟩, ?_⟩
  rintro lots ⟨⟨steps, rfl⟩, above⟩
  refine mul_le_mul_of_nonneg_right ?_ positive.le
  exact_mod_cast Int.ceil_le.mpr ((enough steps).mpr above)

omit positive in
theorem toFixed_lots {lots : ℚ} (isLots : rules.Lots lots) :
    (toFixed (countDecimals rules.lot.stepSize) lots).value = lots := by
  obtain ⟨steps, rfl⟩ := isLots
  obtain ⟨units, isUnits⟩ := exists_units_countDecimals rules.lot.stepSize
  refine toFixed_value_of_units (steps * units) ?_
  rw [mul_assoc, isUnits]
  push_cast
  rfl

/-- The lots of an order: those the quantity holds, or the smallest ones where these fall short of
the smallest lot. -/
def taken (rules : SymbolRules) (greatest least : ℚ) : ℚ :=
  if rules.Reaches greatest then greatest else least

omit positive in
theorem lots_taken {greatest least : ℚ}
    (isGreatest : IsGreatest {lots | rules.Holds quantity lots} greatest)
    (isLeast : IsLeast {lots | rules.LeastLots lots} least) :
    rules.Lots (rules.taken greatest least) := by
  unfold taken
  split
  · exact isGreatest.1.1
  · exact isLeast.1.1

theorem adjusted_iff {greatest least : ℚ} {adjusted : Fixed}
    (isGreatest : IsGreatest {lots | rules.Holds quantity lots} greatest)
    (isLeast : IsLeast {lots | rules.LeastLots lots} least) :
    adjustQuantityToLotSize quantity rules = .ok adjusted ↔
      rules.Within (rules.taken greatest least) ∧
        adjusted = toFixed (countDecimals rules.lot.stepSize) (rules.taken greatest least) := by
  have sameGreatest := isGreatest.unique (@isGreatest_holds rules quantity positive)
  have sameLeast := isLeast.unique (@isLeast_leastLots rules positive)
  unfold adjustQuantityToLotSize
  simp only [if_neg (not_le.mpr positive), ← sameGreatest, ← sameLeast]
  have same : (if greatest < rules.lot.minQty.value - lotTolerance then least else greatest) =
      rules.taken greatest least := by
    unfold taken
    by_cases reaches : rules.Reaches greatest
    · rw [if_neg (not_lt.mpr reaches), if_pos reaches]
    · rw [if_pos (not_le.mp reaches), if_neg reaches]
  rw [same]
  by_cases isOver : rules.taken greatest least > rules.lot.maxQty.value + lotTolerance
  · rw [if_pos isOver]
    exact iff_of_false nofun fun taken => absurd taken.1.2 (not_le.mpr isOver)
  · rw [if_neg isOver]
    by_cases under : rules.taken greatest least < rules.lot.minQty.value - lotTolerance
    · rw [if_pos under]
      exact iff_of_false nofun fun taken => absurd taken.1.1 (not_le.mpr under)
    · rw [if_neg under]
      constructor
      · intro isAdjusted
        exact ⟨⟨not_lt.mp under, not_lt.mp isOver⟩, (Except.ok.inj isAdjusted).symm⟩
      · rintro ⟨-, rfl⟩
        rfl

theorem adjustQuantityToLotSize_eq_ok {greatest least sent : ℚ}
    (isGreatest : IsGreatest {lots | rules.Holds quantity lots} greatest)
    (isLeast : IsLeast {lots | rules.LeastLots lots} least) :
    marketQuantity (some rules) quantity = .ok sent ↔
      rules.Within sent ∧ sent = if rules.Reaches greatest then greatest else least := by
  have isAdjusted {adjusted : Fixed} :=
    @adjusted_iff rules quantity positive greatest least adjusted isGreatest isLeast
  have exact := toFixed_lots (lots_taken isGreatest isLeast)
  show (adjustQuantityToLotSize quantity rules).map Fixed.value = .ok sent ↔
    rules.Within sent ∧ sent = rules.taken greatest least
  constructor
  · intro isSent
    cases adjusted : adjustQuantityToLotSize quantity rules with
    | error message =>
      rw [adjusted] at isSent
      cases isSent
    | ok lotted =>
      obtain ⟨within, rfl⟩ := isAdjusted.mp adjusted
      rw [adjusted] at isSent
      have same : sent = rules.taken greatest least := by
        rw [← exact]
        exact (Except.ok.inj isSent).symm
      rw [same]
      exact ⟨within, rfl⟩
  · rintro ⟨within, rfl⟩
    rw [isAdjusted.mpr ⟨within, rfl⟩]
    exact congrArg Except.ok exact

end SymbolRules

end GdslExchange.Orders
