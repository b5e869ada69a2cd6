/-
This file looks back over a log in which every entry says how long it took: did
something happen within the last so many units of time?
-/

import Mathlib.Algebra.Order.Group.Int
import Mathlib.Data.Int.Order.Basic

namespace Async

variable {Entry : Type} (elapsed : Entry → ℕ)

/-- An entry of that kind is at most that old. The latest entry comes first and is of now. -/
def Within (span : ℤ) (noted : Entry → Prop) : List Entry → Prop
  | [] => False
  | entry :: rest => (noted entry ∧ 0 ≤ span) ∨ Within (span - elapsed entry) noted rest

variable {elapsed}

instance decidableWithin {noted : Entry → Prop} [DecidablePred noted] (span : ℤ) :
    (log : List Entry) → Decidable (Within elapsed span noted log)
  | [] => isFalse not_false
  | entry :: rest =>
    have : Decidable (Within elapsed (span - elapsed entry) noted rest) := decidableWithin _ rest
    inferInstanceAs (Decidable (_ ∨ _))

theorem Within.mono {noted : Entry → Prop} {log : List Entry} {span wider : ℤ}
    (within : Within elapsed span noted log) (le : span ≤ wider) :
    Within elapsed wider noted log := by
  induction log generalizing span wider with
  | nil => exact within
  | cons entry rest inductionHypothesis =>
    rcases within with ⟨isNoted, nonneg⟩ | older
    · exact Or.inl ⟨isNoted, nonneg.trans le⟩
    · exact Or.inr (inductionHypothesis older (by omega))

end Async
