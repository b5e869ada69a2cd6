/-
This file gives what follows for a distribution function from its symmetry alone: the reflection
principle doubles the chance of lying beyond a level, and the doubled chance is still one.

The distribution function of the standard normal law is symmetric.
-/

import Mathlib.Probability.CDF
import Mathlib.Probability.Distributions.Gaussian.Real
import Mathlib.Tactic.Linarith

namespace Numeric

/-- A distribution function that is symmetric around zero. -/
structure IsSymmetricCdf (cdf : ℝ → ℝ) : Prop where
  monotone : Monotone cdf
  nonneg : ∀ z, 0 ≤ cdf z
  le_one : ∀ z, cdf z ≤ 1
  neg : ∀ z, cdf (-z) = 1 - cdf z

/-- The chance of reaching a level at this distance: it is certain from beyond the level, and else
twice the chance of ending there. -/
noncomputable def reach (cdf : ℝ → ℝ) (distance : ℝ) : ℝ :=
  if distance ≤ 0 then 1 else 2 * cdf (-distance)

section Symmetric

variable {cdf : ℝ → ℝ} (symmetric : IsSymmetricCdf cdf) {distance : ℝ}

include symmetric

theorem cdf_zero : cdf 0 = 1 / 2 := by
  have same := symmetric.neg 0
  rw [neg_zero] at same
  linarith

theorem two_mul_cdf_neg_le_one (nonneg : 0 ≤ distance) : 2 * cdf (-distance) ≤ 1 := by
  have le := symmetric.monotone (neg_nonpos.mpr nonneg)
  rw [cdf_zero symmetric] at le
  linarith

theorem reach_nonneg : 0 ≤ reach cdf distance := by
  unfold reach
  split
  · exact zero_le_one
  · exact mul_nonneg zero_le_two (symmetric.nonneg _)

theorem reach_le_one : reach cdf distance ≤ 1 := by
  unfold reach
  split
  · exact le_rfl
  · next beyond => exact two_mul_cdf_neg_le_one symmetric (not_le.mp beyond).le

/-- A farther level is reached less likely. -/
theorem reach_antitone : Antitone (reach cdf) := by
  intro nearer farther le
  by_cases through : nearer ≤ 0
  · rw [show reach cdf nearer = 1 from if_pos through]
    exact reach_le_one symmetric
  · unfold reach
    rw [if_neg through, if_neg fun back => through (le.trans back)]
    have less := symmetric.monotone (neg_le_neg le)
    linarith

/-- A level is reached at least as likely as it is passed in the end. -/
theorem cdf_neg_le_reach : cdf (-distance) ≤ reach cdf distance := by
  unfold reach
  split
  · exact symmetric.le_one _
  · have nonneg := symmetric.nonneg (-distance)
    linarith

end Symmetric

open MeasureTheory ProbabilityTheory in
/-- The standard normal law has no atoms and is its own reflection. -/
theorem isSymmetricCdf_gaussian : IsSymmetricCdf (cdf (gaussianReal 0 1)) where
  monotone := monotone_cdf _
  nonneg := cdf_nonneg _
  le_one := cdf_le_one _
  neg z := by
    have := nullSingletonClass_gaussianReal (μ := 0) (one_ne_zero (α := NNReal))
    have reflected : (gaussianReal 0 1).map (fun x => -x) = gaussianReal 0 1 := by
      have scaled := gaussianReal_map_const_mul (μ := 0) (v := 1) (-1)
      simpa using scaled
    have mirror : (gaussianReal 0 1).real (Set.Iic (-z)) = (gaussianReal 0 1).real (Set.Ici z) := by
      conv_lhs => rw [← reflected]
      rw [map_measureReal_apply measurable_neg measurableSet_Iic]
      refine congrArg _ (Set.ext fun x => ?_)
      rw [Set.mem_preimage, Set.mem_Iic, Set.mem_Ici, neg_le_neg_iff]
    have split : (gaussianReal 0 1).real (Set.Iio z) + (gaussianReal 0 1).real (Set.Ici z) = 1 := by
      rw [← Set.compl_Iio, ← probReal_univ (μ := gaussianReal 0 1)]
      exact measureReal_add_measureReal_compl measurableSet_Iio
    rw [cdf_eq_real, cdf_eq_real, mirror, ← measureReal_congr Iio_ae_eq_Iic]
    linarith

end Numeric
