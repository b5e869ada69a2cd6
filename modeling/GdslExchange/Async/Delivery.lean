/-
This file says how a call to a store can end. A call whose answer is lost has
taken effect all the same, and its caller is told of a failure.
-/

import Mathlib.Data.Nat.Notation
import Mathlib.Logic.Basic

namespace Async

/-- How a call to a store ends: answered, refused without effect, or applied with the answer
lost. -/
inductive Delivery where
  | answered
  | refused (message : String)
  | lost (message : String)
deriving DecidableEq

/-- A row as a query returns it. Rows are kept in creation order and a row's id is its
position. -/
structure Stored (Row : Type) where
  id : ℕ
  row : Row
deriving DecidableEq

namespace Delivery

variable {State Row : Type}

/-- The write takes effect, whether or not it is answered. -/
def Applies : Delivery → Prop
  | refused _ => False
  | _ => True

instance (delivery : Delivery) : Decidable delivery.Applies := by
  cases delivery <;> unfold Applies <;> infer_instance

/-- The caller is told what became of the call. -/
def Truthful : Delivery → Prop
  | lost _ => False
  | _ => True

instance (delivery : Delivery) : Decidable delivery.Truthful := by
  cases delivery <;> unfold Truthful <;> infer_instance

/-- What the caller is told. -/
def reply (delivery : Delivery) (answer : Row) : Except String Row :=
  match delivery with
  | answered => .ok answer
  | refused message => .error message
  | lost message => .error message

/-- A query and its answer. -/
def read (delivery : Delivery) (state : State) (found : Row) : State × Except String Row :=
  (state, delivery.reply found)

/-- The effect of a write and its answer. -/
def write (delivery : Delivery) (before after : State) (written : Row) :
    State × Except String Row :=
  (if delivery.Applies then after else before, delivery.reply written)

theorem write_cases {delivery : Delivery} {before after : State} {written : Row} :
    (delivery.write before after written).1 = after ∨
      (delivery.write before after written).1 = before := by
  exact ite_eq_or_eq _ _ _

def update {Item : Type} (delivery : Delivery) (before : State) (found : Option Item)
    (writes : Item → State × Row) : State × Except String Row :=
  match found with
  | none => (before, .error "Record to update not found.")
  | some item => delivery.write before (writes item).1 (writes item).2

theorem update_state {Item : Type} (delivery : Delivery) (before : State) (found : Option Item)
    (writes : Item → State × Row) : (delivery.update before found writes).1 =
      if delivery.Applies then found.elim before fun item => (writes item).1 else before := by
  cases found with
  | none => exact (ite_self _).symm
  | some item => rfl

theorem write_same {Part : Type} {part : State → Part} {delivery : Delivery}
    {before after : State} {written : Row} (same : part after = part before) :
    part (delivery.write before after written).1 = part before := by
  unfold write
  split
  · exact same
  · rfl

end Delivery

end Async
