/-
This file models the probability that a crypto market resolves YES, over the real numbers and for
any distribution function, and settles when touching a level comes out at least as likely as
finishing beyond it.

At expiry the log price has a downward drift, and the reflection for a touch has none. So it does
for a level above; a level below can come out likelier to be passed in the end than to be touched.
-/

import GdslExchange.JupiterPrediction.CryptoClaim
import GdslExchange.Numeric.SymmetricCdf
import Mathlib.Analysis.Complex.ExponentialBounds

namespace GdslExchange.JupiterPrediction

open Numeric

/-! ### The model -/

/-- The numerals of the formulas. -/
local instance atLeastTwo_two : Nat.AtLeastTwo 2 := ⟨le_rfl⟩

local instance atLeastTwo_percent : Nat.AtLeastTwo 100 := ⟨by decide⟩

local instance atLeastTwo_days : Nat.AtLeastTwo 365 := ⟨by decide⟩

/-- Abramowitz and Stegun's error function. -/
noncomputable def erf (x : ℝ) : ℝ :=
  let sign : ℝ := if x < 0 then -1 else 1
  let ax := |x|
  let t := 1 / (1 + 0.3275911 * ax)
  let y := 1 -
    ((((1.061405429 * t - 1.453152027) * t + 1.421413741) * t - 0.284496736) * t +
      0.254829592) * t * Real.exp (-ax * ax)
  sign * y

noncomputable def normalCdf (z : ℝ) : ℝ := 0.5 * (1 + erf (z / √2))

/-- `ProbabilityInput`. The volatility is annualised, in per cent. -/
structure ProbabilityInput where
  spot : ℝ
  strike : ℝ
  direction : ClaimDirection
  days : ℝ
  annualizedVolPct : ℝ
  isTouch : Bool

namespace ProbabilityInput

variable (input : ProbabilityInput)

/-- The spot is at the strike or beyond it. -/
def IsThrough : Prop :=
  match input.direction with
  | .above => input.spot ≥ input.strike
  | .below => input.spot ≤ input.strike

/-- The volatility until the market closes. -/
noncomputable def vol : ℝ := input.annualizedVolPct / 100 * √(input.days / 365)

end ProbabilityInput

open Classical in
/-- Probability the claim resolves YES under driftless lognormal dynamics. -/
noncomputable def estimateProbability (cdf : ℝ → ℝ) (input : ProbabilityInput) : Option ℝ :=
  if ¬ (input.spot > 0) ∨ ¬ (input.strike > 0) ∨ ¬ (input.annualizedVolPct > 0) then none
  else if ¬ (input.days > 0) then some (if input.IsThrough then 1 else 0)
  else if ¬ (input.vol > 0) then none
  else if input.isTouch ∧ input.IsThrough then some 1
  else
    let t := input.days / 365
    let sigma := input.annualizedVolPct / 100
    let logDist := Real.log (input.strike / input.spot)
    if input.isTouch then
      let p := 2 * cdf (-|logDist| / input.vol)
      some (min 1 (max 0 p))
    else
      let z := (logDist + sigma * sigma * t / 2) / input.vol
      let pAbove := cdf (-z)
      let p := match input.direction with
        | .above => pAbove
        | .below => 1 - pAbove
      some (min 1 (max 0 p))

/-! ### The property and the condition -/

namespace ProbabilityInput

variable (input : ProbabilityInput)

/-- The market of the input with this rule for the strike. -/
def ofKind (isTouch : Bool) : ProbabilityInput := { input with isTouch := isTouch }

/-- The market of the input at another strike. -/
def atStrike (strike : ℝ) : ProbabilityInput := { input with strike := strike }

end ProbabilityInput

/-- Touching is at least as likely as finishing, both are probabilities, and both go with the
strike. -/
structure TouchesLikelier (cdf : ℝ → ℝ) (input : ProbabilityInput) : Prop where
  likelier : ∀ touch ∈ estimateProbability cdf (input.ofKind true),
    ∀ finish ∈ estimateProbability cdf (input.ofKind false), finish ≤ touch
  isShare : ∀ isTouch, ∀ p ∈ estimateProbability cdf (input.ofKind isTouch), 0 ≤ p ∧ p ≤ 1
  monotone : ∀ isTouch higher, input.strike ≤ higher →
    ∀ p ∈ estimateProbability cdf (input.ofKind isTouch),
      ∀ q ∈ estimateProbability cdf ((input.ofKind isTouch).atStrike higher),
        match input.direction with
        | .above => q ≤ p
        | .below => p ≤ q

/-- For a level below the spot, the drift until expiry takes the distribution function at most to
twice what it is at the distance of the level. -/
def DriftStaysBehind (cdf : ℝ → ℝ) (input : ProbabilityInput) : Prop :=
  input.direction = .below → 0 < input.spot → 0 < input.strike → input.strike < input.spot →
    0 < input.annualizedVolPct → 0 < input.days →
      cdf (Real.log (input.strike / input.spot) / input.vol + input.vol / 2) ≤
        2 * cdf (Real.log (input.strike / input.spot) / input.vol)

/-! ### The distance to the strike -/

/-- A market that is priced by the model, and not by its settlement. -/
structure Priced (input : ProbabilityInput) : Prop where
  spot : 0 < input.spot
  strike : 0 < input.strike
  volatile : 0 < input.annualizedVolPct
  days : 0 < input.days

namespace ProbabilityInput

variable (input : ProbabilityInput)

/-- How far the strike is, in units of the volatility: negative from beyond it. -/
noncomputable def distance : ℝ :=
  match input.direction with
  | .above => Real.log (input.strike / input.spot) / input.vol
  | .below => -(Real.log (input.strike / input.spot) / input.vol)

/-- What the drift adds to the distance by the expiry: it takes the price down. -/
noncomputable def drift : ℝ :=
  match input.direction with
  | .above => input.vol / 2
  | .below => -(input.vol / 2)

end ProbabilityInput

section Priced

variable {cdf : ℝ → ℝ} {input : ProbabilityInput}

theorem Priced.vol_pos (priced : Priced input) : 0 < input.vol := by
  have volatile := priced.volatile
  have days := priced.days
  unfold ProbabilityInput.vol
  positivity

theorem Priced.isThrough_iff (priced : Priced input) :
    input.IsThrough ↔ input.distance ≤ 0 := by
  have ratio : 0 < input.strike / input.spot := div_pos priced.strike priced.spot
  unfold ProbabilityInput.IsThrough ProbabilityInput.distance
  split
  · rw [div_le_iff₀ priced.vol_pos, zero_mul, Real.log_nonpos_iff ratio.le,
      div_le_one priced.spot]
  · rw [neg_nonpos, le_div_iff₀ priced.vol_pos, zero_mul, Real.log_nonneg_iff ratio,
      one_le_div priced.spot]

/-- In front of a level, the distance is that of the logarithms either way. -/
theorem Priced.distance_eq (priced : Priced input) (before : 0 < input.distance) :
    -|Real.log (input.strike / input.spot)| / input.vol = -input.distance := by
  unfold ProbabilityInput.distance at *
  rw [neg_div]
  split at before
  · have positive := (div_pos_iff_of_pos_right priced.vol_pos).mp before
    rw [abs_of_pos positive]
  · rw [← neg_div] at before
    have negative := (div_pos_iff_of_pos_right priced.vol_pos).mp before
    rw [abs_of_neg (neg_pos.mp negative), neg_div]

/-- The drifted distance, as the code computes it. -/
theorem Priced.drifted_eq (priced : Priced input) :
    (Real.log (input.strike / input.spot) + input.annualizedVolPct / 100 *
        (input.annualizedVolPct / 100) * (input.days / 365) / 2) / input.vol =
      Real.log (input.strike / input.spot) / input.vol + input.vol / 2 := by
  have positive := priced.vol_pos.ne'
  have years : 0 ≤ input.days / 365 := div_nonneg priced.days.le (by norm_num)
  have variance : input.annualizedVolPct / 100 * (input.annualizedVolPct / 100) *
      (input.days / 365) = input.vol * input.vol := by
    unfold ProbabilityInput.vol
    rw [mul_mul_mul_comm, Real.mul_self_sqrt years]
  rw [variance]
  field_simp

theorem estimateProbability_before (priced : Priced input) (isTouch : input.isTouch = true)
    (before : 0 < input.distance) :
    estimateProbability cdf input = some (min 1 (max 0 (2 * cdf (-input.distance)))) := by
  have notThrough := priced.isThrough_iff.not.mpr before.not_ge
  unfold estimateProbability
  rw [if_neg (by simp [priced.spot, priced.strike, priced.volatile]),
    if_neg (not_not.mpr priced.days), if_neg (not_not.mpr priced.vol_pos),
    if_neg fun both => notThrough both.2]
  rw [if_pos isTouch, priced.distance_eq before]

/-- The model reads the touch off the reflection. -/
theorem estimateProbability_touch (symmetric : IsSymmetricCdf cdf) (priced : Priced input)
    (isTouch : input.isTouch = true) :
    estimateProbability cdf input = some (reach cdf input.distance) := by
  unfold reach
  split
  · next through =>
    unfold estimateProbability
    rw [if_neg (by simp [priced.spot, priced.strike, priced.volatile]),
      if_neg (not_not.mpr priced.days), if_neg (not_not.mpr priced.vol_pos),
      if_pos ⟨isTouch, priced.isThrough_iff.mpr through⟩]
  · next notThrough =>
    have before := not_le.mp notThrough
    rw [estimateProbability_before priced isTouch before,
      max_eq_right (mul_nonneg zero_le_two (symmetric.nonneg _)),
      min_eq_right (two_mul_cdf_neg_le_one symmetric before.le)]

theorem estimateProbability_expiry (priced : Priced input) (isFinish : input.isTouch = false) :
    estimateProbability cdf input = some (min 1 (max 0 (match input.direction with
      | .above => cdf (-(Real.log (input.strike / input.spot) / input.vol + input.vol / 2))
      | .below =>
        1 - cdf (-(Real.log (input.strike / input.spot) / input.vol + input.vol / 2))))) := by
  unfold estimateProbability
  rw [if_neg (by simp [priced.spot, priced.strike, priced.volatile]),
    if_neg (not_not.mpr priced.days), if_neg (not_not.mpr priced.vol_pos),
    if_neg (by simp [isFinish])]
  rw [if_neg (by simp [isFinish]), priced.drifted_eq]

theorem estimateProbability_finish (symmetric : IsSymmetricCdf cdf) (priced : Priced input)
    (isFinish : input.isTouch = false) :
    estimateProbability cdf input = some (cdf (-(input.distance + input.drift))) := by
  have share (z : ℝ) : min 1 (max 0 (cdf z)) = cdf z := by
    rw [max_eq_right (symmetric.nonneg z), min_eq_right (symmetric.le_one z)]
  rw [estimateProbability_expiry priced isFinish]
  unfold ProbabilityInput.distance ProbabilityInput.drift
  cases input.direction with
  | above =>
    rw [share]
  | below =>
    rw [← symmetric.neg, share, ← neg_add]

/-- A market that is settled in all but name. -/
theorem estimateProbability_settled (spot : 0 < input.spot) (strike : 0 < input.strike)
    (volatile : 0 < input.annualizedVolPct) (due : input.days ≤ 0) [Decidable input.IsThrough] :
    estimateProbability cdf input = some (if input.IsThrough then 1 else 0) := by
  unfold estimateProbability
  rw [if_neg (by simp [spot, strike, volatile]), if_pos (not_lt.mpr due)]
  congr

theorem estimateProbability_none (unusable : ¬ (0 < input.spot ∧ 0 < input.strike ∧
    0 < input.annualizedVolPct)) : estimateProbability cdf input = none := by
  unfold estimateProbability
  rw [if_pos]
  rw [not_and_or, not_and_or] at unusable
  exact unusable

end Priced

/-! ### What holds of every market -/

section Every

variable {cdf : ℝ → ℝ} {input : ProbabilityInput} {p q higher : ℝ}

theorem settled_or_priced (estimated : p ∈ estimateProbability cdf input) :
    (0 < input.spot ∧ 0 < input.strike ∧ 0 < input.annualizedVolPct ∧ input.days ≤ 0) ∨
      Priced input := by
  by_cases usable : 0 < input.spot ∧ 0 < input.strike ∧ 0 < input.annualizedVolPct
  · rcases le_or_gt input.days 0 with due | days
    · exact Or.inl ⟨usable.1, usable.2.1, usable.2.2, due⟩
    · exact Or.inr ⟨usable.1, usable.2.1, usable.2.2, days⟩
  · rw [estimateProbability_none usable] at estimated
    cases estimated

theorem estimateProbability_share (symmetric : IsSymmetricCdf cdf)
    (estimated : p ∈ estimateProbability cdf input) : 0 ≤ p ∧ p ≤ 1 := by
  classical
  rcases settled_or_priced estimated with ⟨spot, strike, volatile, due⟩ | priced
  · rw [estimateProbability_settled spot strike volatile due] at estimated
    obtain rfl := Option.some.inj estimated
    split <;> constructor <;> norm_num
  · cases isTouch : input.isTouch with
    | true =>
      rw [estimateProbability_touch symmetric priced isTouch] at estimated
      obtain rfl := Option.some.inj estimated
      exact ⟨reach_nonneg symmetric, reach_le_one symmetric⟩
    | false =>
      rw [estimateProbability_finish symmetric priced isTouch] at estimated
      obtain rfl := Option.some.inj estimated
      exact ⟨symmetric.nonneg _, symmetric.le_one _⟩

theorem distance_atStrike (priced : Priced input) (le : input.strike ≤ higher) :
    match input.direction with
    | .above => input.distance ≤ (input.atStrike higher).distance
    | .below => (input.atStrike higher).distance ≤ input.distance := by
  have grows : Real.log (input.strike / input.spot) / input.vol ≤
      Real.log (higher / input.spot) / input.vol :=
    div_le_div_of_nonneg_right (Real.log_le_log (div_pos priced.strike priced.spot)
      (div_le_div_of_nonneg_right le priced.spot.le)) priced.vol_pos.le
  unfold ProbabilityInput.distance ProbabilityInput.atStrike
  cases input.direction with
  | above => exact grows
  | below => exact neg_le_neg grows

theorem antitone_atStrike {chance : ℝ → ℝ} (antitone : Antitone chance) (priced : Priced input)
    (le : input.strike ≤ higher) : match input.direction with
      | .above => chance (input.atStrike higher).distance ≤ chance input.distance
      | .below => chance input.distance ≤ chance (input.atStrike higher).distance := by
  have farther := distance_atStrike priced le
  cases isDirection : input.direction with
  | above =>
    rw [isDirection] at farther
    exact antitone farther
  | below =>
    rw [isDirection] at farther
    exact antitone farther

theorem estimateProbability_monotone (symmetric : IsSymmetricCdf cdf)
    (le : input.strike ≤ higher) (estimated : p ∈ estimateProbability cdf input)
    (estimatedHigher : q ∈ estimateProbability cdf (input.atStrike higher)) :
    match input.direction with
    | .above => q ≤ p
    | .below => p ≤ q := by
  classical
  rcases settled_or_priced estimated with ⟨spot, strike, volatile, due⟩ | priced
  · have positive : 0 < higher := strike.trans_le le
    rw [estimateProbability_settled spot strike volatile due] at estimated
    rw [@estimateProbability_settled cdf (input.atStrike higher) spot positive volatile due]
      at estimatedHigher
    obtain rfl := Option.some.inj estimated
    obtain rfl := Option.some.inj estimatedHigher
    unfold ProbabilityInput.IsThrough ProbabilityInput.atStrike
    cases input.direction with
    | above =>
      split_ifs with first second
      · exact le_rfl
      · exact absurd (le.trans first) second
      · exact zero_le_one
      · exact le_rfl
    | below =>
      dsimp only
      split_ifs with first second
      · exact le_rfl
      · exact absurd (first.trans le) second
      · exact zero_le_one
      · exact le_rfl
  · have pricedHigher : Priced (input.atStrike higher) :=
      ⟨priced.spot, priced.strike.trans_le le, priced.volatile, priced.days⟩
    cases isTouch : input.isTouch with
    | true =>
      rw [estimateProbability_touch symmetric priced isTouch] at estimated
      rw [estimateProbability_touch symmetric pricedHigher isTouch] at estimatedHigher
      obtain rfl := Option.some.inj estimated
      obtain rfl := Option.some.inj estimatedHigher
      exact antitone_atStrike (reach_antitone symmetric) priced le
    | false =>
      rw [estimateProbability_finish symmetric priced isTouch] at estimated
      rw [estimateProbability_finish symmetric pricedHigher isTouch] at estimatedHigher
      obtain rfl := Option.some.inj estimated
      obtain rfl := Option.some.inj estimatedHigher
      have antitone : Antitone fun distance => cdf (-(distance + input.drift)) :=
        fun _ _ farther => symmetric.monotone (neg_le_neg (add_le_add_left farther _))
      exact antitone_atStrike antitone priced le

end Every

/-! ### Touching and finishing -/

section Touching

variable {cdf : ℝ → ℝ} {input : ProbabilityInput}

theorem finish_le_reach_iff (symmetric : IsSymmetricCdf cdf) (priced : Priced input) :
    cdf (-(input.distance + input.drift)) ≤ reach cdf input.distance ↔
      DriftStaysBehind cdf input := by
  have positive := priced.vol_pos
  constructor
  · intro le isBelow spot strike inFront _ _
    have logNeg : Real.log (input.strike / input.spot) < 0 :=
      Real.log_neg (div_pos strike spot) ((div_lt_one spot).mpr inFront)
    have isDistance : input.distance = -(Real.log (input.strike / input.spot) / input.vol) := by
      unfold ProbabilityInput.distance
      rw [isBelow]
    have isDrift : input.drift = -(input.vol / 2) := by
      unfold ProbabilityInput.drift
      rw [isBelow]
    have before : 0 < input.distance := by
      rw [isDistance]
      exact neg_pos.mpr (div_neg_of_neg_of_pos logNeg positive)
    unfold reach at le
    rw [if_neg before.not_ge, isDistance, isDrift, ← neg_add, neg_neg, neg_neg] at le
    exact le
  · intro behind
    cases isDirection : input.direction with
    | above =>
      have isDrift : input.drift = input.vol / 2 := by
        unfold ProbabilityInput.drift
        rw [isDirection]
      have less : -(input.distance + input.drift) ≤ -input.distance := by
        rw [isDrift]
        linarith
      exact (symmetric.monotone less).trans (cdf_neg_le_reach symmetric)
    | below =>
      have isDistance : input.distance =
          -(Real.log (input.strike / input.spot) / input.vol) := by
        unfold ProbabilityInput.distance
        rw [isDirection]
      have isDrift : input.drift = -(input.vol / 2) := by
        unfold ProbabilityInput.drift
        rw [isDirection]
      unfold reach
      split
      · exact symmetric.le_one _
      · next before =>
        have notThrough := priced.isThrough_iff.not.mpr before
        have inFront : input.strike < input.spot := by
          unfold ProbabilityInput.IsThrough at notThrough
          rw [isDirection] at notThrough
          exact not_le.mp notThrough
        have le := behind isDirection priced.spot priced.strike inFront priced.volatile priced.days
        rw [isDistance, isDrift, ← neg_add, neg_neg, neg_neg]
        exact le

/-- The touch estimate is at least the estimate at expiry just where the drift that only the latter
has stays behind. -/
theorem touchesLikelier_iff (symmetric : IsSymmetricCdf cdf) :
    TouchesLikelier cdf input ↔ DriftStaysBehind cdf input := by
  classical
  constructor
  · intro touches isBelow spot strike inFront volatile days
    have priced : Priced input := ⟨spot, strike, volatile, days⟩
    have pricedOf (isTouch : Bool) : Priced (input.ofKind isTouch) :=
      ⟨spot, strike, volatile, days⟩
    have le := touches.likelier _ (estimateProbability_touch symmetric (pricedOf true) rfl)
      _ (estimateProbability_finish symmetric (pricedOf false) rfl)
    exact (finish_le_reach_iff symmetric priced).mp le isBelow spot strike inFront volatile days
  · intro behind
    refine ⟨fun touch isTouch finish isFinish => ?_,
      fun kind p estimated => estimateProbability_share symmetric estimated,
      fun kind higher le p estimated q estimatedHigher =>
        @estimateProbability_monotone cdf (input.ofKind kind) p q higher symmetric le estimated
          estimatedHigher⟩
    rcases settled_or_priced isTouch with ⟨spot, strike, volatile, due⟩ | priced
    · rw [estimateProbability_settled spot strike volatile due] at isTouch
      rw [@estimateProbability_settled cdf (input.ofKind false) spot strike volatile due]
        at isFinish
      obtain rfl := Option.some.inj isTouch
      obtain rfl := Option.some.inj isFinish
      exact le_rfl
    · have pricedFinish : Priced (input.ofKind false) :=
        ⟨priced.spot, priced.strike, priced.volatile, priced.days⟩
      rw [estimateProbability_touch symmetric priced rfl] at isTouch
      rw [estimateProbability_finish symmetric pricedFinish rfl] at isFinish
      obtain rfl := Option.some.inj isTouch
      obtain rfl := Option.some.inj isFinish
      have pricedInput : Priced input :=
        ⟨priced.spot, priced.strike, priced.volatile, priced.days⟩
      exact (finish_le_reach_iff symmetric pricedInput).mpr behind

end Touching

/-- A level above, of which the reflection is never less likely. -/
theorem touchesLikelier_above :
    TouchesLikelier (ProbabilityTheory.cdf (ProbabilityTheory.gaussianReal 0 1))
      ⟨100, 130, .above, 90, 70, false⟩ :=
  (touchesLikelier_iff isSymmetricCdf_gaussian).mpr nofun

/-! ### A level far below -/

/-- The polynomial of the error function. -/
noncomputable def erfPolynomial (t : ℝ) : ℝ :=
  ((((1.061405429 * t - 1.453152027) * t + 1.421413741) * t - 0.284496736) * t +
    0.254829592) * t

theorem erfPolynomial_le {low high t : ℝ} (nonneg : 0 ≤ low) (lower : low ≤ t)
    (upper : t ≤ high) : erfPolynomial t ≤ 1.061405429 * high ^ 5 - 1.453152027 * low ^ 4 +
      1.421413741 * high ^ 3 - 0.284496736 * low ^ 2 + 0.254829592 * high := by
  have positive := nonneg.trans lower
  have fifth := pow_le_pow_left₀ positive upper 5
  have fourth := pow_le_pow_left₀ nonneg lower 4
  have third := pow_le_pow_left₀ positive upper 3
  have second := pow_le_pow_left₀ nonneg lower 2
  have expanded : erfPolynomial t = 1.061405429 * t ^ 5 - 1.453152027 * t ^ 4 +
      1.421413741 * t ^ 3 - 0.284496736 * t ^ 2 + 0.254829592 * t := by
    unfold erfPolynomial
    ring
  rw [expanded]
  linarith

/-- Twice the normal distribution function, to the left of zero. -/
theorem normalCdf_neg {x : ℝ} (positive : 0 < x) : normalCdf (-(x * √2)) =
    erfPolynomial (1 / (1 + 0.3275911 * x)) * Real.exp (-x * x) / 2 := by
  have root : (√2 : ℝ) ≠ 0 := by positivity
  unfold normalCdf erf erfPolynomial
  rw [← neg_mul, mul_div_cancel_right₀ _ root, if_pos (neg_neg_of_pos positive), abs_neg,
    abs_of_pos positive]
  ring

/-- Half of the spot, in two years, at a volatility of two hundred per cent. -/
noncomputable def farBelow : ProbabilityInput := ⟨100, 50, .below, 730, 200, false⟩

theorem priced_farBelow (isTouch : Bool) : Priced (farBelow.ofKind isTouch) := by
  constructor <;> norm_num [farBelow, ProbabilityInput.ofKind]

theorem vol_farBelow (isTouch : Bool) : (farBelow.ofKind isTouch).vol = 2 * √2 := by
  norm_num [farBelow, ProbabilityInput.ofKind, ProbabilityInput.vol]

theorem log_farBelow : Real.log ((50 : ℝ) / 100) = -Real.log 2 := by
  rw [← Real.log_inv]
  norm_num

theorem distance_farBelow : (farBelow.ofKind true).distance = Real.log 2 / 4 * √2 := by
  have root : (√2 : ℝ) * √2 = 2 := Real.mul_self_sqrt zero_le_two
  have nonzero : (√2 : ℝ) ≠ 0 := by positivity
  have isDistance : (farBelow.ofKind true).distance = -(Real.log (50 / 100) / (2 * √2)) :=
    congrArg (fun vol => -(Real.log (50 / 100) / vol)) (vol_farBelow true)
  rw [isDistance, log_farBelow]
  field_simp
  linarith

theorem drifted_farBelow : Real.log (50 / 100) / (2 * √2) + 2 * √2 / 2 =
    (1 - Real.log 2 / 4) * √2 := by
  have root : (√2 : ℝ) ^ 2 = 2 := Real.sq_sqrt zero_le_two
  have nonzero : (√2 : ℝ) ≠ 0 := by positivity
  rw [log_farBelow]
  field_simp
  rw [root]
  ring

theorem touch_farBelow_le : ∃ touch ∈ estimateProbability normalCdf (farBelow.ofKind true),
    touch ≤ 84 / 100 := by
  have low := Real.log_two_gt_d9
  have high := Real.log_two_lt_d9
  have positive : 0 < Real.log 2 / 4 := by linarith
  have before : 0 < (farBelow.ofKind true).distance := by
    rw [distance_farBelow]
    positivity
  refine ⟨_, estimateProbability_before (priced_farBelow true) rfl before, ?_⟩
  rw [distance_farBelow, normalCdf_neg positive]
  have lower : 0.946 ≤ 1 / (1 + 0.3275911 * (Real.log 2 / 4)) := by
    rw [le_div_iff₀ (by positivity)]
    linarith
  have upper : 1 / (1 + 0.3275911 * (Real.log 2 / 4)) ≤ 0.9465 := by
    rw [div_le_iff₀ (by positivity)]
    linarith
  have polynomial := erfPolynomial_le (by norm_num) lower upper
  have bounded : erfPolynomial (1 / (1 + 0.3275911 * (Real.log 2 / 4))) ≤ 84 / 100 :=
    polynomial.trans (by norm_num)
  have shrinks : Real.exp (-(Real.log 2 / 4) * (Real.log 2 / 4)) ≤ 1 :=
    Real.exp_le_one_iff.mpr (by nlinarith)
  refine (min_le_right _ _).trans (max_le (by norm_num) ?_)
  have product := mul_le_mul_of_nonneg_right bounded (Real.exp_pos
    (-(Real.log 2 / 4) * (Real.log 2 / 4))).le
  linarith

theorem le_finish_farBelow : ∃ finish ∈ estimateProbability normalCdf (farBelow.ofKind false),
    85 / 100 ≤ finish := by
  have low := Real.log_two_gt_d9
  have high := Real.log_two_lt_d9
  have positive : 0 < 1 - Real.log 2 / 4 := by linarith
  refine ⟨_, estimateProbability_expiry (priced_farBelow false) rfl, ?_⟩
  have drifted : Real.log ((farBelow.ofKind false).strike / (farBelow.ofKind false).spot) /
      (farBelow.ofKind false).vol + (farBelow.ofKind false).vol / 2 =
        (1 - Real.log 2 / 4) * √2 := by
    rw [vol_farBelow]
    exact drifted_farBelow
  dsimp only [farBelow, ProbabilityInput.ofKind] at drifted ⊢
  rw [drifted, normalCdf_neg positive]
  have lower : 0.7868 ≤ 1 / (1 + 0.3275911 * (1 - Real.log 2 / 4)) := by
    rw [le_div_iff₀ (by positivity)]
    linarith
  have upper : 1 / (1 + 0.3275911 * (1 - Real.log 2 / 4)) ≤ 0.787 := by
    rw [div_le_iff₀ (by positivity)]
    linarith
  have polynomial := erfPolynomial_le (by norm_num) lower upper
  have bounded : erfPolynomial (1 / (1 + 0.3275911 * (1 - Real.log 2 / 4))) ≤ 49 / 100 :=
    polynomial.trans (by norm_num)
  have shrinks : Real.exp (-(1 - Real.log 2 / 4) * (1 - Real.log 2 / 4)) ≤ 6 / 10 := by
    have grows := Real.add_one_le_exp ((1 - Real.log 2 / 4) * (1 - Real.log 2 / 4))
    have square : 0.68 ≤ (1 - Real.log 2 / 4) * (1 - Real.log 2 / 4) := by nlinarith
    rw [neg_mul, Real.exp_neg, inv_le_comm₀ (Real.exp_pos _) (by norm_num)]
    linarith
  have product := mul_le_mul bounded shrinks (Real.exp_pos _).le (by norm_num)
  refine le_min (by norm_num) (le_max_of_le_right ?_)
  linarith

/-- A level far below is likelier to be passed in the end than to be touched. -/
theorem not_touchesLikelier_farBelow : ¬ TouchesLikelier normalCdf farBelow := by
  intro touches
  obtain ⟨touch, isTouch, atMost⟩ := touch_farBelow_le
  obtain ⟨finish, isFinish, atLeast⟩ := le_finish_farBelow
  have likelier := touches.likelier touch isTouch finish isFinish
  linarith

end GdslExchange.JupiterPrediction
