/-
This file puts the two services of exit settings together: when a change of one setting leaves
the others as they are persisted, and exits are evaluated with what is persisted.

On the DEX this needs the row to be in memory before a change and before a watcher, and updates
that all take effect, in order. On the CEX it needs whoever works with settings to have a copy
of the row as it was last written. Neither service sees to it.
-/

import GdslExchange.ExitConfig.Cex
import GdslExchange.ExitConfig.Jupiter

namespace GdslExchange.ExitConfig

open Async (Turn)

instance (service : Service) (slot : Jupiter.Slot) (event : Jupiter.Event) :
    Decidable (slot.Sound service event) := by
  rcases event with _ | _ <;> unfold Jupiter.Slot.Sound <;> infer_instance

/-- A user who takes profit at five percent and stops at two. -/
def persisted : ExitSettings := ⟨true, 5, 2, false, false, 8 / 10, 4 / 10⟩

/-- The change of one setting. -/
def trailing : PartialExitSettings := { trailingStop := some true }

/-- The table fails a read, or answers; the time is zero. -/
def fates (reading : Async.Delivery) : (op : Cex.Op) → Cex.Fate op
  | .peek _ _ => (0 : ℕ)
  | .findRow _ => reading
  | .settle _ _ _ _ => (0 : ℕ)
  | .upsert _ _ _ => Async.Delivery.answered
  | .remember _ _ => (0 : ℕ)

def turnsOf (service : Service) (reading : Async.Delivery) (caller count : ℕ) :
    List (Turn (Cex.store service)) :=
  List.replicate count ⟨caller, fates reading⟩

end GdslExchange.ExitConfig
