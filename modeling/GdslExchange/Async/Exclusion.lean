/-
This file is about things that at most one caller may be at: a lock is held, an
order is under way, a value is overwritten until it is restored. Who is at it is a
function of the caller; a step changes what one caller is at.
-/

import Mathlib.Data.Nat.Notation
import Mathlib.Logic.Function.Basic

namespace Async

variable {Token : Type}

/-- At most one caller is at it. -/
def Exclusive (at_ : ℕ → Option Token) : Prop :=
  ∀ first second, at_ first ≠ none → at_ second ≠ none → first = second

def FreeBut (at_ : ℕ → Option Token) (caller : ℕ) : Prop :=
  ∀ other, other ≠ caller → at_ other = none

variable {at_ : ℕ → Option Token} {caller : ℕ}

theorem Exclusive.freeBut (exclusive : Exclusive at_) (isAt : at_ caller ≠ none) :
    FreeBut at_ caller := by
  intro other different
  by_contra busy
  exact different (exclusive other caller busy isAt)

theorem FreeBut.exclusive (free : FreeBut at_ caller) : Exclusive at_ := by
  intro first second firstAt secondAt
  have firstIs : first = caller := not_not.mp fun different => firstAt (free first different)
  have secondIs : second = caller := not_not.mp fun different => secondAt (free second different)
  rw [firstIs, secondIs]

/-- What one caller comes to is up to it, while the others are not at it. -/
theorem FreeBut.update (free : FreeBut at_ caller) (token : Option Token) :
    FreeBut (Function.update at_ caller token) caller := by
  intro other different
  rw [Function.update_of_ne different]
  exact free other different

/-- Nobody comes to be at it by a caller that leaves it. -/
theorem Exclusive.leave (exclusive : Exclusive at_) (caller : ℕ) :
    Exclusive (Function.update at_ caller none) := by
  intro first second firstAt secondAt
  have notFirst : first ≠ caller := fun same => firstAt (by rw [same, Function.update_self])
  have notSecond : second ≠ caller := fun same => secondAt (by rw [same, Function.update_self])
  rw [Function.update_of_ne notFirst] at firstAt
  rw [Function.update_of_ne notSecond] at secondAt
  exact exclusive first second firstAt secondAt

end Async
