/-
This file says what a convert of one token of a wallet into another may take: no more than was
asked, the fee that it reports, and nothing where it throws.

A convert is two transactions, the platform fee and the swap of the rest. Which of them lands,
which is heard to have landed and when the convert returns is its course, and a course alone
decides whether the convert is honest.
-/

import Mathlib.Algebra.Order.Field.Rat
import Mathlib.Tactic.Linarith
import Mathlib.Tactic.Positivity

namespace GdslExchange.Convert

/-! ### What a convert takes -/

/-- What has left the wallet of the source token, in its smallest unit: the fee and the input of
the swap. -/
structure Taken where
  fee : Option ℕ
  input : Option ℕ
deriving DecidableEq

def untouched : Taken := ⟨none, none⟩

def Taken.total (taken : Taken) : ℕ := taken.fee.getD 0 + taken.input.getD 0

def convertFeeUsd : ℚ := 1 / 10

structure ConvertRequest where
  source : String
  destination : String
  amount : ℚ
  slippageBps : Option ℚ := none

/-- `BscConvertResult` and `SolanaConvertResult`. -/
structure ConvertResult where
  txHash : String
  source : String
  destination : String
  inAmount : ℚ
  outAmount : ℚ
  feeUsd : ℚ
deriving DecidableEq

/-- A convert takes at most what was asked, reports the fee that it has taken, and takes nothing
where it throws. `units` says how much of the source token, in its smallest unit, a fee in USD
comes to. -/
structure Honest (amount : ℚ) (decimals : ℕ) (units : ℚ → ℕ) (taken : Taken)
    (result : Except String ConvertResult) : Prop where
  bounded : 0 < taken.total → (taken.total : ℚ) ≤ amount * 10 ^ decimals
  reported : ∀ converted, result = .ok converted → taken.fee.getD 0 = units converted.feeUsd
  clean : ∀ failure, result = .error failure → taken.total = 0

/-- A convert that throws before it takes anything is honest. -/
theorem honest_untouched (amount : ℚ) (decimals : ℕ) (units : ℚ → ℕ) (failure : String) :
    Honest amount decimals units untouched (.error failure) where
  bounded positive := absurd positive (lt_irrefl 0)
  reported converted returned := by cases returned
  clean _ _ := rfl

/-! ### The course of a convert -/

/-- The course of a convert: the fee, in the smallest unit, whether it leaves the wallet and
whether it is heard to have left, the input of the swap that leaves the wallet, whether the
convert returns, and whether the amount pays for what leaves. -/
structure Course where
  fee : ℕ
  feeLands : Prop
  feeHeard : Prop
  swapLands : ℕ → Prop
  returns : Prop
  paidFor : Prop

namespace Course

/-- Nothing fails once something has left the wallet, the fee is heard to have left it, and the
amount pays for both transactions. -/
structure Sound (course : Course) : Prop where
  charged : course.feeLands → 0 < course.fee → course.returns
  swapped : ∀ input, course.swapLands input → course.returns
  heard : course.returns → course.feeLands → 0 < course.fee → course.feeHeard
  paid : course.returns → course.paidFor

structure Describes (course : Course) (amount : ℚ) (decimals : ℕ) (units : ℚ → ℕ) (taken : Taken)
    (result : Except String ConvertResult) : Prop where
  lands : course.feeHeard → course.feeLands
  positive : ∀ input, course.swapLands input → 0 < input
  fee : course.feeLands → taken.fee.getD 0 = course.fee
  noFee : ¬ course.feeLands → taken.fee.getD 0 = 0
  input : ∀ input, course.swapLands input → taken.input.getD 0 = input
  noInput : (∀ input, ¬ course.swapLands input) → taken.input.getD 0 = 0
  returned : (∃ converted, result = .ok converted) ↔ course.returns
  reportsFee : course.feeHeard → ∀ converted, result = .ok converted →
    units converted.feeUsd = course.fee
  reportsNone : ¬ course.feeHeard → ∀ converted, result = .ok converted →
    units converted.feeUsd = 0
  paidFor : course.returns → (course.feeLands → 0 < course.fee → course.feeHeard) →
    (course.paidFor ↔ (0 < taken.total → (taken.total : ℚ) ≤ amount * 10 ^ decimals))

theorem taken_of_unheard {feeLands feeHeard : Prop} {fee taken : ℕ}
    (isFee : feeLands → taken = fee) (noFee : ¬ feeLands → taken = 0)
    (heardOf : feeLands → 0 < fee → feeHeard) (unheard : ¬ feeHeard) : taken = 0 := by
  by_cases lands : feeLands
  · rw [isFee lands]
    exact Nat.eq_zero_of_not_pos fun positive => unheard (heardOf lands positive)
  · exact noFee lands

variable {course : Course} {amount : ℚ} {decimals : ℕ} {units : ℚ → ℕ} {taken : Taken}
  {result : Except String ConvertResult}

namespace Describes

section

variable (describes : course.Describes amount decimals units taken result)
include describes

theorem throws (silent : ¬ course.returns) : ∃ failure, result = .error failure := by
  cases result with
  | error failure => exact ⟨failure, rfl⟩
  | ok converted => exact absurd (describes.returned.mp ⟨converted, rfl⟩) silent

theorem reported (heard : course.feeLands → 0 < course.fee → course.feeHeard)
    {converted : ConvertResult} (returned : result = .ok converted) :
    taken.fee.getD 0 = units converted.feeUsd := by
  by_cases isHeard : course.feeHeard
  · rw [describes.fee (describes.lands isHeard), describes.reportsFee isHeard converted returned]
  · rw [describes.reportsNone isHeard converted returned]
    by_cases lands : course.feeLands
    · rw [describes.fee lands]
      exact Nat.eq_zero_of_not_pos fun positive => isHeard (heard lands positive)
    · exact describes.noFee lands

theorem total_pos :
    0 < taken.total ↔
      course.feeLands ∧ 0 < course.fee ∨ ∃ input, course.swapLands input := by
  unfold Taken.total
  constructor
  · intro positive
    by_contra untouched
    rw [not_or, not_exists, not_and] at untouched
    rw [describes.noInput untouched.2] at positive
    by_cases lands : course.feeLands
    · rw [describes.fee lands] at positive
      exact untouched.1 lands positive
    · rw [describes.noFee lands] at positive
      exact lt_irrefl 0 positive
  · rintro (⟨lands, positive⟩ | ⟨input, lands⟩)
    · rw [describes.fee lands]
      exact Nat.add_pos_left positive _
    · rw [describes.input input lands]
      exact Nat.add_pos_right _ (describes.positive input lands)

theorem honest_iff :
    Honest amount decimals units taken result ↔ course.Sound := by
  constructor
  · intro honest
    have returns_of_taken (positive : 0 < taken.total) : course.returns := by
      by_contra silent
      obtain ⟨failure, thrown⟩ := describes.throws silent
      exact positive.ne' (honest.clean failure thrown)
    have heard (returns : course.returns) (lands : course.feeLands) (positive : 0 < course.fee) :
        course.feeHeard := by
      obtain ⟨converted, returned⟩ := describes.returned.mpr returns
      by_contra unheard
      have reported := honest.reported converted returned
      rw [describes.fee lands, describes.reportsNone unheard converted returned] at reported
      exact positive.ne' reported
    refine ⟨?_, ?_, heard, ?_⟩
    · exact fun lands positive =>
        returns_of_taken (describes.total_pos.mpr (.inl ⟨lands, positive⟩))
    · exact fun input lands => returns_of_taken (describes.total_pos.mpr (.inr ⟨input, lands⟩))
    · exact fun returns => (describes.paidFor returns (heard returns)).mpr honest.bounded
  · intro sound
    have returns_of_taken (positive : 0 < taken.total) : course.returns := by
      rcases describes.total_pos.mp positive with ⟨lands, positive⟩ | ⟨input, lands⟩
      · exact sound.charged lands positive
      · exact sound.swapped input lands
    refine ⟨?_, ?_, ?_⟩
    · intro positive
      have returns := returns_of_taken positive
      exact (describes.paidFor returns (sound.heard returns)).mp (sound.paid returns) positive
    · intro converted returned
      exact describes.reported (sound.heard (describes.returned.mp ⟨converted, returned⟩)) returned
    · rintro failure rfl
      refine Nat.eq_zero_of_not_pos fun positive => ?_
      obtain ⟨converted, returned⟩ := describes.returned.mpr (returns_of_taken positive)
      cases returned

end

end Describes

end Course

end GdslExchange.Convert
