/-
This file models the Bayesian ensemble: every source gives a direction, its prior tells
how much that weighs, and the weights add up to the odds of a rise. Numbers are exact
reals.
-/

import GdslExchange.Signals.Priors
import Mathlib.Analysis.SpecialFunctions.Log.Basic

namespace GdslExchange.Signals

noncomputable section

/-! ### Weights -/

def sigmoid (x : ℝ) : ℝ := 1 / (1 + Real.exp (-x))

def betaMean (alpha beta : ℚ) : ℚ := alpha / (alpha + beta)

def eps : ℝ := 1 / 10 ^ 6

def logOddsContrib (signalDir : Direction) (pBullishGivenUp pBullishGivenDown : ℝ) : ℝ :=
  match signalDir with
  | .neutral => 0
  | .up => Real.log ((pBullishGivenUp + eps) / (pBullishGivenDown + eps))
  | .down => Real.log ((1 - pBullishGivenUp + eps) / (1 - pBullishGivenDown + eps))

/-- What a direction of a source weighs under its prior. -/
def BayesPrior.contribution (prior : BayesPrior) (dir : Direction) : ℝ :=
  let pBullishGivenUp := betaMean prior.alphaUp prior.betaUp
  let pBullishGivenDown := betaMean prior.alphaDown prior.betaDown
  logOddsContrib dir pBullishGivenUp pBullishGivenDown

/-! ### The ensemble -/

def sources : List String := ["ema", "rsi", "macd", "bollinger", "volume", "news", "orderbook"]

structure Component where
  name : String
  direction : Direction
  logOddsContrib : ℝ

structure EnsembleResult where
  pUp : ℝ
  direction : Direction
  components : List Component

/-- A prior is read by an upsert that updates nothing. -/
def getPrior (key : PriorKey) (priors : Priors) : Priors := upsert key id priors

/-- The prior that a source has once it is read. -/
def priorOf (priors : Priors) (key : PriorKey) : BayesPrior := (priors key).getD .created

/-- What one source adds, if neither it nor the read of its prior fails. -/
def component (symbol interval : String) (priors : Priors) (name : String)
    (said : Option Direction) : Option Component :=
  said.map fun dir => ⟨name, dir, (priorOf priors ⟨name, symbol, interval⟩).contribution dir⟩

/-- What the sources add, given what each of them says. -/
def components (symbol interval : String) (said : String → Option Direction) (priors : Priors) :
    List Component :=
  sources.filterMap fun name => component symbol interval priors name (said name)

def runBayesianEnsemble (symbol interval : String) (said : String → Option Direction)
    (priors : Priors) : EnsembleResult × Priors :=
  let components := components symbol interval said priors
  let pUp := sigmoid (components.map Component.logOddsContrib).sum
  let direction : Direction :=
    if pUp > 60 / 100 then .up else if pUp < 40 / 100 then .down else .neutral
  (⟨pUp, direction, components⟩,
    sources.foldl (fun priors name =>
      if (said name).isSome then getPrior ⟨name, symbol, interval⟩ priors else priors) priors)

def EnsembleResult.contribution (result : EnsembleResult) (source : String) : Option ℝ :=
  (result.components.find? fun component => component.name = source).map Component.logOddsContrib

/-! ### The part of one source -/

theorem find_component {symbol interval source : String} {said : String → Option Direction}
    {dir : Direction} (isSaid : said source = some dir) (priors : Priors) {names : List String}
    (listed : source ∈ names) :
    ((names.filterMap fun name => component symbol interval priors name (said name)).find?
      fun component => component.name = source) =
        some ⟨source, dir, (priorOf priors ⟨source, symbol, interval⟩).contribution dir⟩ := by
  induction names with
  | nil => cases listed
  | cons name rest inductionHypothesis =>
    by_cases same : name = source
    · rw [same, List.filterMap_cons, isSaid]
      exact List.find?_cons_of_pos (decide_eq_true rfl)
    · have later : source ∈ rest :=
        (List.mem_cons.mp listed).resolve_left fun isName => same isName.symm
      rw [← inductionHypothesis later, List.filterMap_cons]
      cases said name with
      | none => rfl
      | some other => exact List.find?_cons_of_neg (by simpa using same)

theorem contribution_of_said {source symbol interval : String}
    {said : String → Option Direction} {dir : Direction} (isSaid : said source = some dir)
    (listed : source ∈ sources) (priors : Priors) :
    (runBayesianEnsemble symbol interval said priors).1.contribution source =
      some ((priorOf priors ⟨source, symbol, interval⟩).contribution dir) := by
  show Option.map _ (List.find? _ (components symbol interval said priors)) = _
  unfold components
  rw [find_component isSaid priors listed]
  rfl

/-! ### Signs -/

/-- The odds of a direction, by the means of the two rows of counters. -/
theorem logOdds_pos {first second : ℝ} (first_nonneg : 0 ≤ first) (second_nonneg : 0 ≤ second) :
    0 < Real.log ((first + eps) / (second + eps)) ↔ second < first := by
  have small : (0 : ℝ) < eps := by
    unfold eps
    norm_num
  have positive : 0 < second + eps := by linarith
  rw [Real.log_pos_iff (div_nonneg (by linarith) positive.le), one_lt_div positive]
  constructor <;> intro less <;> linarith

theorem logOdds_neg {first second : ℝ} (first_nonneg : 0 ≤ first) (second_nonneg : 0 ≤ second) :
    Real.log ((first + eps) / (second + eps)) < 0 ↔ first < second := by
  rw [← logOdds_pos second_nonneg first_nonneg, ← neg_pos, ← Real.log_inv, inv_div]

end

end GdslExchange.Signals
