/-
This file models the Beta priors of the signal sources: one row for a source, a symbol
and an interval, with four counters, and what the outcomes of signals do to them.
-/

import Mathlib.Algebra.Ring.Rat
import Mathlib.Data.List.Nodup
import Mathlib.Logic.Function.Basic

namespace GdslExchange.Signals

/-! ### Rows -/

inductive Direction where
  | up
  | down
  | neutral
deriving DecidableEq

/-- The unique key of a `BayesPrior`. -/
structure PriorKey where
  signalSource : String
  symbol : String
  interval : String
deriving DecidableEq

structure BayesPrior where
  alphaUp : ℚ
  betaUp : ℚ
  alphaDown : ℚ
  betaDown : ℚ
deriving DecidableEq

/-- A row with the defaults of the schema. -/
def BayesPrior.created : BayesPrior := ⟨1, 1, 1, 1⟩

/-- The table. -/
abbrev Priors := PriorKey → Option BayesPrior

/-- `bayesPrior.upsert` with the defaults in its `create` branch. -/
def upsert (key : PriorKey) (update : BayesPrior → BayesPrior) (priors : Priors) : Priors :=
  Function.update priors key (some (((priors key).map update).getD .created))

/-! ### Outcomes -/

/-- The `update` branch of `updatePriors`: a source that said `dir`, and what the price did. -/
def BayesPrior.learn (dir : Direction) (actualUp : Bool) (prior : BayesPrior) : BayesPrior :=
  let wasBullish : Bool := dir = .up
  { alphaUp := if wasBullish && actualUp then prior.alphaUp + 1 else prior.alphaUp
    betaUp := if wasBullish && !actualUp then prior.betaUp + 1 else prior.betaUp
    alphaDown := if !wasBullish && !actualUp then prior.alphaDown + 1 else prior.alphaDown
    betaDown := if !wasBullish && actualUp then prior.betaDown + 1 else prior.betaDown }

/-- A `Record<string, Direction>`, which has no key twice. -/
structure SignalRecord where
  entries : List (String × Direction)
  distinct : (entries.map Prod.fst).Nodup

/-- What `updatePriors` does for one source. -/
def updatePrior (symbol interval : String) (actualUp : Bool) (priors : Priors)
    (entry : String × Direction) : Priors :=
  if entry.2 = .neutral then priors
  else upsert ⟨entry.1, symbol, interval⟩ (BayesPrior.learn entry.2 actualUp) priors

def updatePriors (symbol interval : String) (signals : SignalRecord) (actualUp : Bool)
    (priors : Priors) : Priors :=
  signals.entries.foldl (updatePrior symbol interval actualUp) priors

/-! ### What an update leaves alone -/

section Frame

variable {symbol interval : String} {actualUp : Bool} {key : PriorKey}

theorem upsert_self (update : BayesPrior → BayesPrior) (priors : Priors) :
    upsert key update priors key = some (((priors key).map update).getD .created) :=
  Function.update_self key _ priors

theorem upsert_other {other : PriorKey} (different : key ≠ other)
    (update : BayesPrior → BayesPrior) (priors : Priors) :
    upsert other update priors key = priors key :=
  Function.update_of_ne different _ priors

theorem updatePrior_other {entry : String × Direction}
    (different : key ≠ ⟨entry.1, symbol, interval⟩) (priors : Priors) :
    updatePrior symbol interval actualUp priors entry key = priors key := by
  unfold updatePrior
  split
  · rfl
  · exact upsert_other different _ priors

theorem foldl_updatePrior_other {entries : List (String × Direction)}
    (different : ∀ entry ∈ entries, key ≠ ⟨entry.1, symbol, interval⟩) (priors : Priors) :
    entries.foldl (updatePrior symbol interval actualUp) priors key = priors key := by
  induction entries generalizing priors with
  | nil => rfl
  | cons entry rest inductionHypothesis =>
    rw [List.foldl_cons, inductionHypothesis fun other member =>
      different other (List.mem_cons_of_mem _ member)]
    exact updatePrior_other (different entry List.mem_cons_self) priors

theorem updatePriors_elsewhere (signals : SignalRecord)
    (elsewhere : ¬ (symbol = key.symbol ∧ interval = key.interval)) (priors : Priors) :
    updatePriors symbol interval signals actualUp priors key = priors key := by
  refine foldl_updatePrior_other (fun entry _ isKey => elsewhere ?_) priors
  rw [isKey]
  exact ⟨rfl, rfl⟩

/-- An update of a row depends on no other row. -/
theorem updatePrior_congr {source : String} {dir : Direction} {first second : Priors}
    (same : first ⟨source, symbol, interval⟩ = second ⟨source, symbol, interval⟩) :
    updatePrior symbol interval actualUp first (source, dir) ⟨source, symbol, interval⟩ =
      updatePrior symbol interval actualUp second (source, dir) ⟨source, symbol, interval⟩ := by
  unfold updatePrior
  split
  · exact same
  · rw [upsert_self, upsert_self, same]

/-- What a source says in a record, if it says anything. -/
def SignalRecord.directionOf (signals : SignalRecord) (source : String) : Direction :=
  ((signals.entries.find? fun entry => entry.1 = source).map Prod.snd).getD .neutral

theorem foldl_updatePrior {entries : List (String × Direction)}
    (distinct : (entries.map Prod.fst).Nodup) (source : String) (priors : Priors) :
    entries.foldl (updatePrior symbol interval actualUp) priors ⟨source, symbol, interval⟩ =
      updatePrior symbol interval actualUp priors (source,
        ((entries.find? fun entry => entry.1 = source).map Prod.snd).getD .neutral)
        ⟨source, symbol, interval⟩ := by
  induction entries generalizing priors with
  | nil => rfl
  | cons entry rest inductionHypothesis =>
    rw [List.map_cons, List.nodup_cons] at distinct
    rw [List.foldl_cons]
    by_cases same : entry.1 = source
    · have last : ∀ other ∈ rest, (⟨source, symbol, interval⟩ : PriorKey) ≠
          ⟨other.1, symbol, interval⟩ := by
        intro other member isKey
        have isSource : source = other.1 := (PriorKey.mk.inj isKey).1
        refine distinct.1 (List.mem_map.mpr ⟨other, member, ?_⟩)
        rw [← isSource, same]
      rw [foldl_updatePrior_other last, List.find?_cons_of_pos (by simp [same])]
      rw [show entry = (source, entry.2) from Prod.ext same rfl]
      rfl
    · rw [inductionHypothesis distinct.2, List.find?_cons_of_neg (by simp [same])]
      exact updatePrior_congr (updatePrior_other
        (fun isKey => same (PriorKey.mk.inj isKey).1.symm) priors)

theorem updatePriors_self (signals : SignalRecord) (source : String) {priors : Priors}
    {prior : BayesPrior} (isPrior : priors ⟨source, symbol, interval⟩ = some prior) :
    updatePriors symbol interval signals actualUp priors ⟨source, symbol, interval⟩ =
      some (if signals.directionOf source = .neutral then prior
        else prior.learn (signals.directionOf source) actualUp) := by
  refine (foldl_updatePrior signals.distinct source priors).trans ?_
  show updatePrior symbol interval actualUp priors (source, signals.directionOf source) _ = _
  unfold updatePrior
  split
  · exact isPrior
  · rw [upsert_self, isPrior]
    rfl

end Frame

end GdslExchange.Signals
