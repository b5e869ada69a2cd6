/-
This file compares the weighted mean of a selection of items with a level.

The mean is at least the level where the items together have a surplus over it, and so a change of
one item keeps it there if the change takes nothing from the surplus: this says when an item may
join the selection or leave it.
-/

import Mathlib.Algebra.BigOperators.Ring.List
import Mathlib.Algebra.Order.BigOperators.Group.List
import Mathlib.Algebra.Order.Field.Basic
import Mathlib.Tactic.Linarith
import Mathlib.Tactic.Ring

namespace Numeric

section WeightedMean

variable {Amount Item : Type} [Field Amount] [LinearOrder Amount] [IsStrictOrderedRing Amount]
  (weight value : Item → Amount)

def weightedMean (items : List Item) : Amount :=
  (items.map fun item => value item * weight item).sum / (items.map weight).sum

def surplus (level : Amount) (item : Item) : Amount := (value item - level) * weight item

variable {weight value} {items : List Item} {level : Amount}

omit [LinearOrder Amount] [IsStrictOrderedRing Amount] in
theorem sum_surplus : (items.map (surplus weight value level)).sum =
    (items.map fun item => value item * weight item).sum - level * (items.map weight).sum := by
  induction items with
  | nil => simp
  | cons item rest inductionHypothesis =>
    simp only [List.map_cons, List.sum_cons, inductionHypothesis, surplus]
    ring

theorem sum_weight_pos (positive : ∀ item ∈ items, 0 < weight item) (nonempty : items ≠ []) :
    0 < (items.map weight).sum := by
  refine List.sum_pos _ (fun amount member => ?_) (by simpa using nonempty)
  obtain ⟨item, inItems, rfl⟩ := List.mem_map.mp member
  exact positive item inItems

theorem le_weightedMean_iff (positive : 0 < (items.map weight).sum) :
    level ≤ weightedMean weight value items ↔
      0 ≤ (items.map (surplus weight value level)).sum := by
  unfold weightedMean
  rw [le_div_iff₀ positive, sum_surplus, sub_nonneg]

theorem le_weightedMean (positive : ∀ item ∈ items, 0 < weight item) (nonempty : items ≠ [])
    (least : ∀ item ∈ items, level ≤ value item) : level ≤ weightedMean weight value items := by
  rw [le_weightedMean_iff (sum_weight_pos positive nonempty)]
  refine List.sum_nonneg fun amount member => ?_
  obtain ⟨item, inItems, rfl⟩ := List.mem_map.mp member
  exact mul_nonneg (sub_nonneg.mpr (least item inItems)) (positive item inItems).le

theorem weightedMean_le (positive : ∀ item ∈ items, 0 < weight item) (nonempty : items ≠ [])
    (most : ∀ item ∈ items, value item ≤ level) : weightedMean weight value items ≤ level := by
  unfold weightedMean
  rw [div_le_iff₀ (sum_weight_pos positive nonempty), ← List.sum_map_mul_left]
  exact List.sum_le_sum fun item inItems =>
    mul_le_mul_of_nonneg_right (most item inItems) (positive item inItems).le

omit [LinearOrder Amount] [IsStrictOrderedRing Amount] in
theorem sum_filter_eq (selects : Item → Bool) (amount : Item → Amount) :
    ((items.filter selects).map amount).sum =
      (items.map fun item => if selects item then amount item else 0).sum := by
  induction items with
  | nil => rfl
  | cons item rest inductionHypothesis =>
    rw [List.map_cons, List.sum_cons, ← inductionHypothesis, List.filter_cons]
    cases selects item <;> simp

end WeightedMean

end Numeric
