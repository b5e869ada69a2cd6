/-
This file compares a lot of purchases with one purchase at their mean price.

The cost of the lot at the cost-weighted mean of its prices buys at most what
the purchases bought together, and as much only if they were all made at one
price: the mean that keeps the quantity is the harmonic one. The difference is
the spread of the prices around their mean, weighted by quantity.
-/

import Mathlib.Algebra.BigOperators.Ring.List
import Mathlib.Algebra.Order.BigOperators.Group.List
import Mathlib.Algebra.Order.Field.Basic
import Mathlib.Tactic.FieldSimp
import Mathlib.Tactic.Linarith
import Mathlib.Tactic.Positivity
import Mathlib.Tactic.Ring

namespace Numeric

section Lots

variable {Amount Item : Type} [Field Amount] [LinearOrder Amount] [IsStrictOrderedRing Amount]
  (cost price : Item → Amount)

def totalCost (lot : List Item) : Amount := (lot.map cost).sum

/-- What the purchases of a lot bought. -/
def totalQuantity (lot : List Item) : Amount := (lot.map fun item => cost item / price item).sum

/-- The mean price of a lot, weighted by cost. -/
def meanPrice (lot : List Item) : Amount :=
  (lot.map fun item => price item * cost item).sum / totalCost cost lot

/-- The purchases of a lot were made at one price. -/
def OnePrice (lot : List Item) : Prop :=
  ∀ first ∈ lot, ∀ second ∈ lot, price first = price second

variable {cost price} {lot : List Item}

omit [IsStrictOrderedRing Amount] in
theorem sum_spread (priced : ∀ item ∈ lot, 0 < price item) (level : Amount) :
    (lot.map fun item => cost item / price item * (price item - level) ^ 2).sum =
      (lot.map fun item => price item * cost item).sum - 2 * level * totalCost cost lot +
        level ^ 2 * totalQuantity cost price lot := by
  unfold totalCost totalQuantity
  induction lot with
  | nil => simp
  | cons item rest inductionHypothesis =>
    have positive := priced item List.mem_cons_self
    simp only [List.map_cons, List.sum_cons]
    rw [inductionHypothesis fun other member => priced other (List.mem_cons_of_mem _ member)]
    field_simp
    ring

theorem totalCost_pos (costly : ∀ item ∈ lot, 0 < cost item) (nonempty : lot ≠ []) :
    0 < totalCost cost lot := by
  refine List.sum_pos _ (fun amount member => ?_) (by simpa using nonempty)
  obtain ⟨item, inLot, rfl⟩ := List.mem_map.mp member
  exact costly item inLot

section Positive

variable (costly : ∀ item ∈ lot, 0 < cost item) (priced : ∀ item ∈ lot, 0 < price item)
  (nonempty : lot ≠ [])
include costly priced nonempty

theorem weighted_pos : 0 < (lot.map fun item => price item * cost item).sum := by
  refine List.sum_pos _ (fun amount member => ?_) (by simpa using nonempty)
  obtain ⟨item, inLot, rfl⟩ := List.mem_map.mp member
  exact mul_pos (priced item inLot) (costly item inLot)

theorem meanPrice_pos : 0 < meanPrice cost price lot :=
  div_pos (weighted_pos costly priced nonempty) (totalCost_pos costly nonempty)

/-- The quantity lost at the mean price is the spread around it, in units of its square. -/
theorem totalQuantity_sub : totalQuantity cost price lot -
      totalCost cost lot / meanPrice cost price lot =
    (lot.map fun item =>
      cost item / price item * (price item - meanPrice cost price lot) ^ 2).sum /
        meanPrice cost price lot ^ 2 := by
  have costPositive := totalCost_pos costly nonempty
  have meanPositive := meanPrice_pos costly priced nonempty
  have weighted : (lot.map fun item => price item * cost item).sum =
      meanPrice cost price lot * totalCost cost lot := by
    unfold meanPrice
    field_simp
  rw [sum_spread priced, weighted]
  field_simp
  ring

theorem totalCost_div_meanPrice_le :
    totalCost cost lot / meanPrice cost price lot ≤ totalQuantity cost price lot := by
  have spread : 0 ≤ (lot.map fun item =>
      cost item / price item * (price item - meanPrice cost price lot) ^ 2).sum := by
    refine List.sum_nonneg fun amount member => ?_
    obtain ⟨item, inLot, rfl⟩ := List.mem_map.mp member
    have someCost := costly item inLot
    have somePrice := priced item inLot
    positivity
  have lost := totalQuantity_sub costly priced nonempty
  have nonneg := div_nonneg spread (sq_nonneg (meanPrice cost price lot))
  linarith

/-- It buys as much only if everything was bought at one price. -/
theorem totalCost_div_meanPrice_eq_iff :
    totalCost cost lot / meanPrice cost price lot = totalQuantity cost price lot ↔
      OnePrice price lot := by
  have meanPositive := meanPrice_pos costly priced nonempty
  have lost := totalQuantity_sub costly priced nonempty
  constructor
  · intro same
    rw [same, sub_self, eq_comm, div_eq_zero_iff,
      or_iff_left (pow_ne_zero 2 meanPositive.ne')] at lost
    have level : ∀ item ∈ lot, price item = meanPrice cost price lot := by
      intro item member
      have term := List.all_zero_of_le_zero_le_of_sum_eq_zero (fun amount inTerms => ?_) lost
        (List.mem_map_of_mem member)
      · have quantity := div_pos (costly item member) (priced item member)
        have square := (mul_eq_zero.mp term).resolve_left quantity.ne'
        exact sub_eq_zero.mp (pow_eq_zero_iff two_ne_zero |>.mp square)
      · obtain ⟨other, inLot, rfl⟩ := List.mem_map.mp inTerms
        have someCost := costly other inLot
        have somePrice := priced other inLot
        positivity
    intro first inFirst second inSecond
    rw [level first inFirst, level second inSecond]
  · intro one
    obtain ⟨head, rest, isLot⟩ := List.exists_cons_of_ne_nil nonempty
    have isHead : ∀ item ∈ lot, price item = price head := fun item member =>
      one item member head (by rw [isLot]; exact List.mem_cons_self)
    have costPositive := totalCost_pos costly nonempty
    have headPositive := priced head (by rw [isLot]; exact List.mem_cons_self)
    have weighted : (lot.map fun item => price item * cost item).sum =
        price head * totalCost cost lot := by
      unfold totalCost
      rw [← List.sum_map_mul_left]
      exact congrArg List.sum (List.map_congr_left fun item member => by rw [isHead item member])
    have isMean : meanPrice cost price lot = price head := by
      unfold meanPrice
      rw [weighted]
      field_simp
    rw [isMean]
    unfold totalCost totalQuantity
    rw [div_eq_mul_inv, ← List.sum_map_mul_right]
    exact congrArg List.sum (List.map_congr_left fun item member => by
      rw [isHead item member, div_eq_mul_inv])

end Positive

end Lots

end Numeric
