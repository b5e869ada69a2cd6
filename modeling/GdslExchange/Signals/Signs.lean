/-
This file settles when the ensemble has learned with the right sign: what the
counters of a source are after any history of outcomes, and which sign that gives its
directions.

The counters of a source's UP calls are read as how often it is bullish before a rise,
and those of its DOWN calls as how often it is bullish before a fall. The first reading
is right in its sign; the second is the complement of what it should be, so a source is
trusted where it is better at UP calls than at DOWN calls, and not where it is good.
-/

import GdslExchange.Signals.Ensemble

namespace GdslExchange.Signals

/-! ### Histories -/

/-- A call of `updatePriors`. -/
structure Outcome where
  symbol : String
  interval : String
  signals : SignalRecord
  actualUp : Bool

def Outcome.update (outcome : Outcome) (priors : Priors) : Priors :=
  updatePriors outcome.symbol outcome.interval outcome.signals outcome.actualUp priors

/-- The priors after a history of outcomes, the oldest first. -/
def learned (history : List Outcome) (priors : Priors) : Priors :=
  history.foldl (fun priors outcome => outcome.update priors) priors

/-- The same outcome with the other move. -/
def Outcome.reversed (outcome : Outcome) : Outcome :=
  { outcome with actualUp := !outcome.actualUp }

def Outcome.isCall (key : PriorKey) (dir : Direction) (actualUp : Bool) (outcome : Outcome) :
    Bool :=
  (outcome.symbol = key.symbol ∧ outcome.interval = key.interval) ∧
    outcome.signals.directionOf key.signalSource = dir ∧ outcome.actualUp = actualUp

/-- How often the source of a key has called a direction before a move. -/
def calls (key : PriorKey) (dir : Direction) (actualUp : Bool) (history : List Outcome) : ℕ :=
  history.countP (Outcome.isCall key dir actualUp)

/-- UP calls and DOWN calls were right more often than wrong. -/
structure Reliable (key : PriorKey) (history : List Outcome) : Prop where
  up : calls key .up false history < calls key .up true history
  down : calls key .down true history < calls key .down false history

/-- The share of right UP calls is above that of right DOWN calls, one right and one wrong
call added to each. -/
def BetterAtUp (key : PriorKey) (history : List Outcome) : Prop :=
  (1 + calls key .down false history) *
      (2 + calls key .up true history + calls key .up false history) <
    (1 + calls key .up true history) *
      (2 + calls key .down false history + calls key .down true history)

/-! ### Counters -/

/-- The row that a history leaves of one that was just created. -/
def tally (key : PriorKey) (history : List Outcome) : BayesPrior where
  alphaUp := 1 + calls key .up true history
  betaUp := 1 + calls key .up false history
  alphaDown := 1 + calls key .down false history
  betaDown := 1 + calls key .down true history

theorem calls_concat (key : PriorKey) (dir : Direction) (actualUp : Bool)
    (history : List Outcome) (outcome : Outcome) :
    calls key dir actualUp (history ++ [outcome]) =
      calls key dir actualUp history + if outcome.isCall key dir actualUp then 1 else 0 := by
  unfold calls
  rw [List.countP_append, List.countP_singleton]

theorem calls_insert (key : PriorKey) (dir : Direction) (actualUp : Bool)
    (before after : List Outcome) (outcome : Outcome) :
    calls key dir actualUp (before ++ outcome :: after) =
      calls key dir actualUp (before ++ after) +
        if outcome.isCall key dir actualUp then 1 else 0 := by
  unfold calls
  rw [List.countP_append, List.countP_append, List.countP_cons, Nat.add_assoc]

theorem calls_reversed (key : PriorKey) (dir : Direction) (actualUp : Bool)
    (history : List Outcome) :
    calls key dir actualUp (history.map Outcome.reversed) = calls key dir (!actualUp) history := by
  unfold calls
  rw [List.countP_map]
  refine List.countP_congr fun outcome _ => ?_
  simp [Outcome.isCall, Outcome.reversed]

theorem tally_reversed (key : PriorKey) (history : List Outcome) :
    tally key (history.map Outcome.reversed) =
      ⟨(tally key history).betaUp, (tally key history).alphaUp,
        (tally key history).betaDown, (tally key history).alphaDown⟩ := by
  unfold tally
  simp only [calls_reversed, Bool.not_true, Bool.not_false]

variable {priors : Priors}

theorem update_tally (key : PriorKey) (history : List Outcome) (outcome : Outcome)
    (isTally : priors key = some (tally key history)) :
    outcome.update priors key = some (tally key (history ++ [outcome])) := by
  obtain ⟨source, symbol, interval⟩ := key
  unfold tally Outcome.update
  simp only [calls_concat]
  by_cases here : outcome.symbol = symbol ∧ outcome.interval = interval
  · rw [here.1, here.2, updatePriors_self outcome.signals source isTally]
    cases said : outcome.signals.directionOf source <;> cases moved : outcome.actualUp <;>
      simp [Outcome.isCall, BayesPrior.learn, tally, here, said, moved, add_assoc]
  · rw [updatePriors_elsewhere outcome.signals here, isTally]
    simp [Outcome.isCall, here, tally]

theorem learned_tally (key : PriorKey) (history : List Outcome)
    (isCreated : priors key = some .created) :
    learned history priors key = some (tally key history) := by
  induction history using List.reverseRecOn with
  | nil =>
    rw [show tally key [] = .created by simp [tally, calls, BayesPrior.created]]
    exact isCreated
  | append_singleton history outcome inductionHypothesis =>
    unfold learned
    rw [List.foldl_append]
    exact update_tally key history outcome inductionHypothesis

variable {alpha beta : ℚ}

section

variable (alpha_pos : 0 < alpha) (beta_pos : 0 < beta)
include alpha_pos beta_pos

/-! ### Weights of a tally -/

theorem betaMean_nonneg :
    0 ≤ betaMean alpha beta :=
  div_nonneg alpha_pos.le (add_pos alpha_pos beta_pos).le

theorem betaMean_swap :
    betaMean beta alpha = 1 - betaMean alpha beta := by
  unfold betaMean
  rw [add_comm beta alpha, eq_sub_iff_add_eq, ← add_div, add_comm beta alpha]
  exact div_self (add_pos alpha_pos beta_pos).ne'

theorem betaMean_le_one :
    betaMean alpha beta ≤ 1 := by
  have swapped := betaMean_nonneg beta_pos alpha_pos
  rw [betaMean_swap alpha_pos beta_pos] at swapped
  exact sub_nonneg.mp swapped

/-- One more success. -/
theorem betaMean_le_succ :
    betaMean alpha beta ≤ betaMean (alpha + 1) beta := by
  unfold betaMean
  rw [div_le_div_iff₀ (add_pos alpha_pos beta_pos) (by linarith)]
  nlinarith

end

/-- No counter of a row is zero. -/
structure BayesPrior.Positive (prior : BayesPrior) : Prop where
  alphaUp : 0 < prior.alphaUp
  betaUp : 0 < prior.betaUp
  alphaDown : 0 < prior.alphaDown
  betaDown : 0 < prior.betaDown

theorem tally_positive (key : PriorKey) (history : List Outcome) :
    (tally key history).Positive := by
  constructor <;> exact add_pos_of_pos_of_nonneg one_pos (Nat.cast_nonneg _)

/-- The two means that a row gives, UP calls first. -/
def BayesPrior.LeansUp (prior : BayesPrior) : Prop :=
  betaMean prior.alphaDown prior.betaDown < betaMean prior.alphaUp prior.betaUp

theorem leansUp_tally (key : PriorKey) (history : List Outcome) :
    (tally key history).LeansUp ↔ BetterAtUp key history := by
  have positive := tally_positive key history
  unfold BayesPrior.LeansUp BetterAtUp betaMean
  rw [div_lt_div_iff₀ (add_pos positive.alphaDown positive.betaDown)
    (add_pos positive.alphaUp positive.betaUp), ← Nat.cast_lt (α := ℚ)]
  unfold tally
  push_cast
  constructor <;> intro less <;> linarith

section Contribution

variable {prior : BayesPrior} (positive : prior.Positive)

include positive

theorem contribution_up_pos : 0 < prior.contribution .up ↔ prior.LeansUp := by
  unfold BayesPrior.contribution logOddsContrib BayesPrior.LeansUp
  rw [logOdds_pos (mod_cast betaMean_nonneg positive.alphaUp positive.betaUp)
    (mod_cast betaMean_nonneg positive.alphaDown positive.betaDown)]
  exact Rat.cast_lt

theorem contribution_down_neg : prior.contribution .down < 0 ↔ prior.LeansUp := by
  unfold BayesPrior.contribution logOddsContrib BayesPrior.LeansUp
  rw [logOdds_neg
    (sub_nonneg.mpr (mod_cast betaMean_le_one positive.alphaUp positive.betaUp))
    (sub_nonneg.mpr (mod_cast betaMean_le_one positive.alphaDown positive.betaDown)),
    sub_lt_sub_iff_left]
  exact Rat.cast_lt

/-- The row with right and wrong exchanged leans the other way. -/
theorem contribution_up_neg_of_swapped :
    BayesPrior.contribution ⟨prior.betaUp, prior.alphaUp, prior.betaDown, prior.alphaDown⟩ .up < 0
      ↔ prior.LeansUp := by
  unfold BayesPrior.contribution logOddsContrib BayesPrior.LeansUp
  rw [betaMean_swap positive.alphaUp positive.betaUp,
    betaMean_swap positive.alphaDown positive.betaDown,
    logOdds_neg (mod_cast sub_nonneg.mpr (betaMean_le_one positive.alphaUp positive.betaUp))
      (mod_cast sub_nonneg.mpr (betaMean_le_one positive.alphaDown positive.betaDown)),
    Rat.cast_lt]
  exact sub_lt_sub_iff_left 1

theorem contribution_down_pos_of_swapped :
    0 < BayesPrior.contribution ⟨prior.betaUp, prior.alphaUp, prior.betaDown, prior.alphaDown⟩
      .down ↔ prior.LeansUp := by
  unfold BayesPrior.contribution logOddsContrib BayesPrior.LeansUp
  rw [betaMean_swap positive.alphaUp positive.betaUp,
    betaMean_swap positive.alphaDown positive.betaDown]
  push_cast
  rw [sub_sub_cancel, sub_sub_cancel,
    logOdds_pos (mod_cast betaMean_nonneg positive.alphaUp positive.betaUp)
      (mod_cast betaMean_nonneg positive.alphaDown positive.betaDown)]
  exact Rat.cast_lt

/-- One more right UP call. -/
theorem contribution_up_mono :
    prior.contribution .up ≤
      BayesPrior.contribution { prior with alphaUp := prior.alphaUp + 1 } .up := by
  have small : (0 : ℝ) < eps := by
    unfold eps
    norm_num
  have up_nonneg : (0 : ℝ) ≤ betaMean prior.alphaUp prior.betaUp :=
    mod_cast betaMean_nonneg positive.alphaUp positive.betaUp
  have down_nonneg : (0 : ℝ) ≤ betaMean prior.alphaDown prior.betaDown :=
    mod_cast betaMean_nonneg positive.alphaDown positive.betaDown
  have grows : (betaMean prior.alphaUp prior.betaUp : ℝ) ≤
      betaMean (prior.alphaUp + 1) prior.betaUp :=
    mod_cast betaMean_le_succ positive.alphaUp positive.betaUp
  refine Real.log_le_log (div_pos (by linarith) (by linarith)) ?_
  gcongr

end Contribution

/-! ### The sign of what was learned -/

/-- What the ensemble makes of a direction of a source has a property. -/
def Contributes (key : PriorKey) (priors : Priors) (dir : Direction) (fits : ℝ → Prop) : Prop :=
  ∀ said : String → Option Direction, said key.signalSource = some dir →
    ∃ weight, (runBayesianEnsemble key.symbol key.interval said priors).1.contribution
      key.signalSource = some weight ∧ fits weight

/-- The ensemble learns with the right sign. -/
structure LearnsRight (key : PriorKey) (priors : Priors) (history : List Outcome) : Prop where
  up : Reliable key history → Contributes key (learned history priors) .up (0 < ·)
  down : Reliable key history → Contributes key (learned history priors) .down (· < 0)
  reversedUp : Reliable key history →
    Contributes key (learned (history.map Outcome.reversed) priors) .up (· < 0)
  reversedDown : Reliable key history →
    Contributes key (learned (history.map Outcome.reversed) priors) .down (0 < ·)
  grows : ∀ before after outcome, history = before ++ after → outcome.isCall key .up true →
    Contributes key (learned history priors) .up fun less =>
      Contributes key (learned (before ++ outcome :: after) priors) .up fun more => less ≤ more

theorem contributes_iff {key : PriorKey} (listed : key.signalSource ∈ sources)
    {history : List Outcome} (isCreated : priors key = some .created) (dir : Direction)
    (fits : ℝ → Prop) :
    Contributes key (learned history priors) dir fits ↔
      fits ((tally key history).contribution dir) := by
  have weighs : ∀ said : String → Option Direction, said key.signalSource = some dir →
      (runBayesianEnsemble key.symbol key.interval said (learned history priors)).1.contribution
        key.signalSource = some ((tally key history).contribution dir) := by
    intro said isSaid
    rw [contribution_of_said isSaid listed]
    unfold priorOf
    rw [learned_tally key history isCreated]
    rfl
  constructor
  · intro contributes
    obtain ⟨weight, isWeight, fitting⟩ := contributes (fun _ => some dir) rfl
    rw [weighs _ rfl] at isWeight
    rwa [Option.some.inj isWeight]
  · intro fitting said isSaid
    exact ⟨_, weighs said isSaid, fitting⟩

theorem tally_insert {key : PriorKey} {outcome : Outcome}
    (isRight : outcome.isCall key .up true) (before after : List Outcome) :
    tally key (before ++ outcome :: after) =
      { tally key (before ++ after) with alphaUp := (tally key (before ++ after)).alphaUp + 1 } := by
  unfold tally
  unfold Outcome.isCall at isRight
  simp only [calls_insert, Outcome.isCall]
  simp only [decide_eq_true_eq] at isRight
  simp [isRight.1, isRight.2, add_assoc]

/-- The ensemble has learned with the right sign just when a source that is good at both
calls is better at UP calls. -/
theorem learnsRight_iff (key : PriorKey) (listed : key.signalSource ∈ sources)
    (history : List Outcome) (priors : Priors) (isCreated : priors key = some .created) :
    LearnsRight key priors history ↔ (Reliable key history → BetterAtUp key history) := by
  have positive := tally_positive key history
  constructor
  · intro right reliable
    rw [← leansUp_tally, ← contribution_up_pos positive]
    exact (contributes_iff listed isCreated _ _).mp (right.up reliable)
  · intro better
    have leans : Reliable key history → (tally key history).LeansUp := fun reliable =>
      (leansUp_tally key history).mpr (better reliable)
    constructor
    · intro reliable
      exact (contributes_iff listed isCreated _ _).mpr
        ((contribution_up_pos positive).mpr (leans reliable))
    · intro reliable
      exact (contributes_iff listed isCreated _ _).mpr
        ((contribution_down_neg positive).mpr (leans reliable))
    · intro reliable
      rw [contributes_iff listed isCreated, tally_reversed]
      exact (contribution_up_neg_of_swapped positive).mpr (leans reliable)
    · intro reliable
      rw [contributes_iff listed isCreated, tally_reversed]
      exact (contribution_down_pos_of_swapped positive).mpr (leans reliable)
    · intro before after outcome isHistory isRight
      rw [contributes_iff listed isCreated, contributes_iff listed isCreated,
        tally_insert isRight, ← isHistory]
      exact contribution_up_mono positive

/-- Two right UP calls of a source, and a right DOWN call. -/
def betterAtUp : List Outcome :=
  [⟨"BTCUSDT", "1m", ⟨[("ema", .up)], by decide⟩, true⟩,
    ⟨"BTCUSDT", "1m", ⟨[("ema", .up)], by decide⟩, true⟩,
    ⟨"BTCUSDT", "1m", ⟨[("ema", .down)], by decide⟩, false⟩]

theorem learnsRight_betterAtUp :
    LearnsRight ⟨"ema", "BTCUSDT", "1m"⟩ (fun _ => some .created) betterAtUp :=
  (learnsRight_iff ⟨"ema", "BTCUSDT", "1m"⟩ (by decide) betterAtUp (fun _ => some .created)
    rfl).mpr fun _ => by
      unfold BetterAtUp
      decide

/-- A right UP call and a right DOWN call. -/
def alwaysRight : List Outcome :=
  [⟨"BTCUSDT", "1m", ⟨[("ema", .up)], by decide⟩, true⟩,
    ⟨"BTCUSDT", "1m", ⟨[("ema", .down)], by decide⟩, false⟩]

/-- A source that was always right weighs nothing. -/
theorem not_learnsRight :
    ¬ LearnsRight ⟨"ema", "BTCUSDT", "1m"⟩ (fun _ => some .created) alwaysRight := by
  intro right
  have reliable : Reliable ⟨"ema", "BTCUSDT", "1m"⟩ alwaysRight := ⟨by decide, by decide⟩
  have contributes := (contributes_iff (by decide) rfl _ _).mp (right.up reliable)
  rw [contribution_up_pos (tally_positive _ _), leansUp_tally] at contributes
  unfold BetterAtUp at contributes
  exact absurd contributes (by decide)

end GdslExchange.Signals
