/-
This file says what a decimal column holds: a whole number of units of its last place. What is
written to it is rounded, halves away from zero, and a sum or a difference is rounded anew. A
difference is then not the difference of what is stored for its parts if the number taken away
lies halfway between two units.
-/

import GdslExchange.Numeric.Fixed

namespace Numeric

def stored (places : ℕ) (number : ℚ) : ℤ := (toFixed places number).units

/-- The number that a column of so many places holds. -/
def held (places : ℕ) (units : ℤ) : ℚ := units / 10 ^ places

/-- A number halfway between two integers is rounded up by a half. -/
def Halfway (number : ℚ) : Prop := (round number : ℚ) = number + 1 / 2

instance : DecidablePred Halfway := fun _ => inferInstanceAs (Decidable (_ = _))

theorem round_add (units : ℤ) (number : ℚ) : round (units + number) = units + round number := by
  unfold round
  rw [add_assoc, Int.floor_intCast_add]

theorem round_neg (number : ℚ) :
    round (-number) = -round number + if Halfway number then 1 else 0 := by
  have above := round_le number
  have below := lt_round number
  by_cases halfway : Halfway number
  · rw [if_pos halfway]
    unfold Halfway at halfway
    refine Int.floor_eq_iff.mpr ⟨?_, ?_⟩ <;> push_cast <;> linarith
  · rw [if_neg halfway]
    have strict : (round number : ℚ) < number + 1 / 2 := lt_of_le_of_ne above halfway
    refine Int.floor_eq_iff.mpr ⟨?_, ?_⟩ <;> push_cast <;> linarith

section Column

variable {places : ℕ}

theorem held_mul (units : ℤ) : held places units * 10 ^ places = units := by
  unfold held
  field_simp

variable {number : ℚ}

theorem stored_of_nonneg (nonneg : 0 ≤ number) :
    stored places number = round (number * 10 ^ places) :=
  if_neg (not_lt.mpr nonneg)

theorem stored_of_neg (neg : number < 0) :
    stored places number = -round (-number * 10 ^ places) :=
  if_pos neg

theorem stored_nonneg (nonneg : 0 ≤ number) : 0 ≤ stored places number := by
  rw [stored_of_nonneg nonneg]
  exact round_nonneg (by positivity)

theorem stored_held_add {units : ℤ} (held_nonneg : 0 ≤ units) (nonneg : 0 ≤ number) :
    stored places (held places units + number) = units + stored places number := by
  have sum_nonneg : 0 ≤ held places units + number := by
    unfold held
    positivity
  rw [stored_of_nonneg sum_nonneg, stored_of_nonneg nonneg, add_mul, held_mul, round_add]

theorem stored_held_sub (units : ℤ) (nonneg : 0 ≤ number) :
    stored places (held places units - number) = units - stored places number +
      if number ≤ held places units ∧ Halfway (number * 10 ^ places) then 1 else 0 := by
  by_cases covered : number ≤ held places units
  · rw [stored_of_nonneg (sub_nonneg.mpr covered), stored_of_nonneg nonneg, sub_mul, held_mul,
      sub_eq_add_neg, round_add, round_neg]
    simp only [covered, true_and]
    ring
  · rw [stored_of_neg (sub_neg.mpr (not_le.mp covered)), stored_of_nonneg nonneg, neg_sub, sub_mul,
      held_mul, sub_eq_neg_add, ← Int.cast_neg, round_add]
    simp only [covered, false_and, if_false]
    ring

theorem le_held_of_halfway {units : ℤ} (nonneg : 0 ≤ number)
    (halfway : Halfway (number * 10 ^ places)) (below : stored places number ≤ units) :
    number ≤ held places units := by
  have belowRational : ((stored places number : ℤ) : ℚ) ≤ units := Int.cast_le.mpr below
  rw [stored_of_nonneg nonneg] at belowRational
  unfold Halfway at halfway
  unfold held
  rw [le_div_iff₀ (by positivity)]
  linarith

end Column

end Numeric
