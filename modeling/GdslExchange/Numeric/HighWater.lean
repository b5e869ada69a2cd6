/-
This file is about the high-water mark of a sequence of values: the highest of
them and of the value it starts from. The latest value comes first.
-/

import Mathlib.Algebra.Order.BigOperators.Group.List
import Mathlib.Order.Bounds.Basic
import Mathlib.Order.MinMax

namespace Numeric

variable {Value : Type} [LinearOrder Value]

/-- The highest of the values and of the start. -/
def highWater (start : Value) : List Value → Value
  | [] => start
  | value :: earlier => max (highWater start earlier) value

variable {start : Value} {values : List Value}

@[simp] theorem highWater_nil : highWater start [] = start := rfl

@[simp] theorem highWater_cons (value : Value) :
    highWater start (value :: values) = max (highWater start values) value := rfl

theorem highWater_lt_iff {bound : Value} :
    highWater start values < bound ↔ start < bound ∧ ∀ value ∈ values, value < bound := by
  induction values with
  | nil => simp
  | cons value earlier inductionHypothesis =>
    rw [highWater_cons, max_lt_iff, inductionHypothesis, List.forall_mem_cons]
    tauto

theorem isGreatest_mem_singleton {value : Value} : IsGreatest {other | other ∈ [value]} value :=
  ⟨List.mem_singleton_self value, fun _ member => (List.mem_singleton.mp member).le⟩

/-- A further value leaves the higher of itself and the highest so far. -/
theorem isGreatest_mem_cons {value top : Value}
    (greatest : IsGreatest {other | other ∈ values} top) :
    IsGreatest {other | other ∈ value :: values} (max top value) := by
  constructor
  · obtain higher | lower := le_total top value
    · rw [max_eq_right higher]
      exact List.mem_cons_self
    · rw [max_eq_left lower]
      exact List.mem_cons_of_mem value greatest.1
  · intro other member
    obtain rfl | earlier := List.mem_cons.mp member
    · exact le_max_right _ _
    · exact (greatest.2 earlier).trans (le_max_left _ _)

/-! ### Values that are added up -/

section Sum

variable {Amount : Type} [AddCommGroup Amount] [LinearOrder Amount] [IsOrderedAddMonoid Amount]
  {amounts : List Amount} (positive : ∀ amount ∈ amounts, 0 < amount)
include positive

theorem highWater_zero_le_sum : highWater 0 amounts ≤ amounts.sum := by
  induction amounts with
  | nil => exact le_rfl
  | cons amount earlier inductionHypothesis =>
    have others : ∀ other ∈ earlier, 0 < other :=
      fun other member => positive other (List.mem_cons_of_mem _ member)
    rw [highWater_cons, List.sum_cons]
    refine max_le ?_ ?_
    · exact (inductionHypothesis others).trans
        (le_add_of_nonneg_left (positive amount List.mem_cons_self).le)
    · exact le_add_of_nonneg_right (List.sum_nonneg fun other member => (others other member).le)

/-- The highest of some positive amounts is their sum only where there is but one. -/
theorem highWater_zero_eq_sum_iff : highWater 0 amounts = amounts.sum ↔ amounts.length ≤ 1 := by
  rcases amounts with _ | ⟨amount, _ | ⟨second, earlier⟩⟩
  · exact iff_of_true rfl zero_le_one
  · refine iff_of_true ?_ le_rfl
    rw [highWater_cons, highWater_nil, List.sum_singleton]
    exact max_eq_right (positive amount (List.mem_singleton_self amount)).le
  · refine iff_of_false (ne_of_lt ?_) (by simp)
    have others : ∀ other ∈ second :: earlier, 0 < other :=
      fun other member => positive other (List.mem_cons_of_mem _ member)
    have some : 0 < (second :: earlier).sum := by
      rw [List.sum_cons]
      exact add_pos_of_pos_of_nonneg (others second List.mem_cons_self)
        (List.sum_nonneg fun other member => (others other (List.mem_cons_of_mem _ member)).le)
    rw [highWater_cons, List.sum_cons]
    refine max_lt ?_ (lt_add_of_pos_right _ some)
    exact (highWater_zero_le_sum others).trans_lt
      (lt_add_of_pos_left _ (positive amount List.mem_cons_self))

end Sum

end Numeric
