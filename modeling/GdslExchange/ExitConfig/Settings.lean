/-
This file gives what the two services of exit settings share: the settings of a user, a change
of some of them, and how a change is merged into the settings that a service takes for the
user's.

Numbers are exact and finite.
-/

import Mathlib.Algebra.Order.Field.Rat
import Mathlib.Order.Lattice

namespace GdslExchange.ExitConfig

/-- `JupiterExitSettings` and `CexExitSettings`, and the columns of their tables. -/
structure ExitSettings where
  enabled : Bool
  takeProfitPct : ℚ
  stopLossPct : ℚ
  profitSkim : Bool
  trailingStop : Bool
  trailingActivationPct : ℚ
  trailingDeltaPct : ℚ
deriving DecidableEq

/-- `Partial<…>` of them. -/
structure PartialExitSettings where
  enabled : Option Bool := none
  takeProfitPct : Option ℚ := none
  stopLossPct : Option ℚ := none
  profitSkim : Option Bool := none
  trailingStop : Option Bool := none
  trailingActivationPct : Option ℚ := none
  trailingDeltaPct : Option ℚ := none

def clampPct (n min max : ℚ) : ℚ := Min.min max (Max.max min n)

/-- What a service knows without its table: the least take profit and stop loss it takes, and the
settings of a user of whom it knows none. -/
structure Service where
  minPct : ℚ
  defaults : ExitSettings

namespace Service

variable (service : Service)

def clampExit (n : ℚ) : ℚ := clampPct n service.minPct 50

def clampActivation (n : ℚ) : ℚ := clampPct n (2 / 10) 10

def clampDelta (n : ℚ) : ℚ := clampPct n (1 / 10) 10

def ofRow (row : ExitSettings) : ExitSettings :=
  { row with
    takeProfitPct := service.clampExit row.takeProfitPct
    stopLossPct := service.clampExit row.stopLossPct
    trailingActivationPct := clampActivation row.trailingActivationPct
    trailingDeltaPct := clampDelta row.trailingDeltaPct }

/-- `next`: what a change makes of the settings. -/
def merge (raw : PartialExitSettings) (prev : ExitSettings) : ExitSettings where
  enabled := raw.enabled.getD prev.enabled
  takeProfitPct := service.clampExit (raw.takeProfitPct.getD prev.takeProfitPct)
  stopLossPct := service.clampExit (raw.stopLossPct.getD prev.stopLossPct)
  profitSkim := raw.profitSkim.getD prev.profitSkim
  trailingStop := raw.trailingStop.getD prev.trailingStop
  trailingActivationPct :=
    clampActivation (raw.trailingActivationPct.getD prev.trailingActivationPct)
  trailingDeltaPct := clampDelta (raw.trailingDeltaPct.getD prev.trailingDeltaPct)

/-- The settings with the given fields in place of theirs, clamped, and all others as they are. -/
def withGiven (raw : PartialExitSettings) (settings : ExitSettings) : ExitSettings where
  enabled := raw.enabled.getD settings.enabled
  takeProfitPct := (raw.takeProfitPct.map service.clampExit).getD settings.takeProfitPct
  stopLossPct := (raw.stopLossPct.map service.clampExit).getD settings.stopLossPct
  profitSkim := raw.profitSkim.getD settings.profitSkim
  trailingStop := raw.trailingStop.getD settings.trailingStop
  trailingActivationPct :=
    (raw.trailingActivationPct.map clampActivation).getD settings.trailingActivationPct
  trailingDeltaPct := (raw.trailingDeltaPct.map clampDelta).getD settings.trailingDeltaPct

theorem clampPct_clampPct (n min max : ℚ) :
    clampPct (clampPct n min max) min max = clampPct n min max := by
  unfold clampPct
  rcases le_total min max with ordered | crossed
  · rw [max_eq_right (le_min ordered (le_max_left min n)), ← min_assoc, min_self]
  · have isMax (n : ℚ) : Min.min max (Max.max min n) = max :=
      min_eq_left (crossed.trans (le_max_left min n))
    rw [isMax, isMax]

theorem ofRow_merge (raw : PartialExitSettings) (prev : ExitSettings) :
    service.ofRow (service.merge raw prev) = service.merge raw prev := by
  simp only [ofRow, merge, clampExit, clampActivation, clampDelta, clampPct_clampPct]

theorem ofRow_ofRow (row : ExitSettings) :
    service.ofRow (service.ofRow row) = service.ofRow row := by
  simp only [ofRow, clampExit, clampActivation, clampDelta, clampPct_clampPct]

theorem merge_ofRow (raw : PartialExitSettings) (row : ExitSettings) :
    service.merge raw (service.ofRow row) = service.withGiven raw (service.ofRow row) := by
  have given (clamp : ℚ → ℚ) (idempotent : ∀ n, clamp (clamp n) = clamp n) (value : Option ℚ)
      (old : ℚ) : clamp (value.getD (clamp old)) = (value.map clamp).getD (clamp old) := by
    cases value with
    | none => exact idempotent old
    | some new => rfl
  have exits := given service.clampExit fun n => clampPct_clampPct n service.minPct 50
  have activations := given clampActivation fun n => clampPct_clampPct n _ 10
  have deltas := given clampDelta fun n => clampPct_clampPct n _ 10
  simp only [merge, withGiven, ofRow, exits, activations, deltas]

end Service

end GdslExchange.ExitConfig
