/-
This file models the sizing of an order by its USD notional: the adjusted quantity is raised, step
by step, until it meets the minimum notional of its symbol. The validators of the executor are
modelled beside it.

The loop takes fuel, and the results say how much is enough.
-/

import GdslExchange.Orders.Rounding

namespace GdslExchange.Orders

open Numeric

/-! ### The validators -/

def limitTolerance : ℚ := 1 / 10 ^ 10

def notionalTolerance : ℚ := 1 / 10 ^ 8

def assertValidQuantityForSymbol (quantityStr : Fixed) (rules : SymbolRules) : Except String ℚ :=
  let q := quantityStr.value
  let step := rules.lot.stepSize.value
  let reconstructed := Numeric.round (q / step) * step
  let normalized := toFixed (countDecimals rules.lot.stepSize) q
  if quantityStr.units < 0 then .error ("Invalid quantity format: " ++ quantityStr.render)
  else if q ≤ 0 then .error "Quantity must be a positive finite number"
  else if step ≤ 0 then .error "Invalid stepSize from exchange info"
  else if q < rules.lot.minQty.value - limitTolerance then
    .error s!"Quantity {quantityStr.render} below minQty {rules.lot.minQty.render}"
  else if q > rules.lot.maxQty.value + limitTolerance then
    .error s!"Quantity {quantityStr.render} above maxQty {rules.lot.maxQty.render}"
  else if |q - reconstructed| > step / 10 ^ 6 then
    .error ("Quantity " ++ quantityStr.render ++ " is not a valid multiple of stepSize " ++
      rules.lot.stepSize.render)
  else if normalized ≠ quantityStr then
    .error ("Quantity string " ++ quantityStr.render ++ " must use " ++
      toString (countDecimals rules.lot.stepSize) ++ " decimal places for stepSize " ++
      rules.lot.stepSize.render ++ " (expected " ++ normalized.render ++ ")")
  else .ok q

def assertMinNotionalMet (quantityStr : Fixed) (refPrice : ℚ) (rules : SymbolRules) :
    Except String Unit :=
  let n := quantityStr.value * refPrice
  if refPrice ≤ 0 then .error "refPrice must be positive for notional validation"
  else if rules.minNotional > 0 ∧ n < rules.minNotional - notionalTolerance then
    .error ("Notional " ++ (toFixed 8 n).render ++ " below minNotional " ++
      text rules.minNotional ++ " (qty " ++ quantityStr.render ++ " @ " ++ text refPrice ++ ")")
  else .ok ()

/-! ### The sizing -/

/-- The error of a minimum notional beyond the greatest lot. -/
def cannotSatisfy (usd refPrice : ℚ) (rules : SymbolRules) : String :=
  "Cannot satisfy minNotional " ++ text rules.minNotional ++ " within maxQty " ++
    rules.lot.maxQty.render ++ " at price " ++ text refPrice ++ " (budget ~" ++ text usd ++ " USDT)"

/-- The `while` loop of `usdNotionalToBaseQuantity`, from a quantity that is below the minimum
notional. -/
def raiseToMinNotional (usd refPrice : ℚ) (rules : SymbolRules) :
    ℕ → ℚ → Option (Except String Fixed)
  | 0, _ => none
  | fuel + 1, quantity =>
    let q := quantity + rules.lot.stepSize.value
    if q > rules.lot.maxQty.value + lotTolerance then
      some (.error (cannotSatisfy usd refPrice rules))
    else
      let qStr := toFixed (countDecimals rules.lot.stepSize) q
      if notionalForQuantity qStr refPrice < rules.minNotional - notionalTolerance then
        raiseToMinNotional usd refPrice rules fuel q
      else some (.ok qStr)

def usdNotionalToBaseQuantity (fuel : ℕ) (usd refPrice : ℚ) (rules : SymbolRules) :
    Option (Except String Fixed) :=
  if usd ≤ 0 then some (.error "usd must be positive")
  else if refPrice ≤ 0 then some (.error "refPrice must be positive")
  else
    match adjustQuantityToLotSize (usd / refPrice) rules with
    | .error message => some (.error message)
    | .ok qStr =>
      if rules.minNotional ≤ 0 then some (.ok qStr)
      else if notionalForQuantity qStr refPrice ≥ rules.minNotional - notionalTolerance then
        some (.ok qStr)
      else raiseToMinNotional usd refPrice rules fuel qStr.value

namespace SymbolRules

variable {rules : SymbolRules} {usd price : ℚ}

/-! ### What the validators accept -/

/-- The minimum notional is met, up to the tolerance of the code. -/
def MeetsNotional (rules : SymbolRules) (price lots : ℚ) : Prop :=
  0 < rules.minNotional → rules.minNotional - notionalTolerance ≤ lots * price

instance (price lots : ℚ) : Decidable (rules.MeetsNotional price lots) :=
  inferInstanceAs (Decidable (_ → _))

theorem assertMinNotionalMet_iff {quantityStr : Fixed} (positive : 0 < price) :
    assertMinNotionalMet quantityStr price rules = .ok () ↔
      rules.MeetsNotional price quantityStr.value := by
  unfold assertMinNotionalMet MeetsNotional
  simp only [if_neg (not_le.mpr positive)]
  split
  · next below => exact iff_of_false nofun fun meets => absurd (meets below.1) (not_le.mpr below.2)
  · next meets =>
    refine iff_of_true rfl fun someMinimum => ?_
    exact not_lt.mp fun below => meets ⟨someMinimum, below⟩

variable {lots : ℚ}

theorem assertValidQuantityForSymbol_iff (positive : 0 < rules.lot.stepSize.value)
    (isLots : rules.Lots lots) (within : rules.Within lots) (nonneg : 0 ≤ lots) :
    assertValidQuantityForSymbol (toFixed (countDecimals rules.lot.stepSize) lots) rules =
      .ok lots ↔ lots ≠ 0 := by
  have unsigned : ¬ (toFixed (countDecimals rules.lot.stepSize) lots).units < 0 := by
    unfold toFixed
    simp only [if_neg (not_lt.mpr nonneg), not_lt]
    exact round_nonneg (by positivity)
  have reconstructed : Numeric.round (lots / rules.lot.stepSize.value) * rules.lot.stepSize.value =
      lots := by
    obtain ⟨steps, rfl⟩ := isLots
    rw [mul_div_cancel_right₀ _ positive.ne', round_intCast]
  have tolerances : lotTolerance ≤ limitTolerance := by
    unfold lotTolerance limitTolerance
    norm_num
  have reaches : ¬ lots < rules.lot.minQty.value - limitTolerance := by
    have reached := within.1
    unfold Reaches at reached
    linarith
  have below : ¬ lots > rules.lot.maxQty.value + limitTolerance := by
    have limited := within.2
    linarith
  have aligned : ¬ |lots - lots| > rules.lot.stepSize.value / 10 ^ 6 := by
    rw [sub_self, abs_zero]
    exact not_lt.mpr (by positivity)
  unfold assertValidQuantityForSymbol
  simp only [toFixed_lots isLots, reconstructed, if_neg unsigned, if_neg (not_le.mpr positive),
    if_neg reaches, if_neg below, if_neg aligned, ne_eq, not_true_eq_false, if_false]
  split
  · next zero => exact iff_of_false nofun (not_not.mpr (le_antisymm zero nonneg))
  · next someQuantity => exact iff_of_true rfl fun zero => someQuantity zero.le

/-! ### The loop -/

/-- Lots a number of steps above others. -/
def stepsAbove (rules : SymbolRules) (lots : ℚ) (steps : ℕ) : ℚ :=
  lots + steps * rules.lot.stepSize.value

theorem lots_stepsAbove (isLots : rules.Lots lots) (steps : ℕ) :
    rules.Lots (rules.stepsAbove lots steps) := by
  obtain ⟨whole, rfl⟩ := isLots
  refine ⟨whole + steps, ?_⟩
  unfold stepsAbove
  push_cast
  ring

theorem stepsAbove_stepsAbove (lots : ℚ) (first steps : ℕ) :
    rules.stepsAbove (rules.stepsAbove lots first) steps =
      rules.stepsAbove lots (first + steps) := by
  unfold stepsAbove
  push_cast
  ring

def FallsShort (rules : SymbolRules) (price lots : ℚ) : Prop :=
  lots * price < rules.minNotional - notionalTolerance

instance (price lots : ℚ) : Decidable (rules.FallsShort price lots) :=
  inferInstanceAs (Decidable (_ < _))

/-- One round of the loop: it throws beyond the greatest lot, goes on while the lots fall short, or
returns them. -/
theorem raise_succ (isLots : rules.Lots lots) (fuel : ℕ) :
    raiseToMinNotional usd price rules (fuel + 1) lots =
      if rules.lot.maxQty.value + lotTolerance < rules.stepsAbove lots 1 then
        some (.error (cannotSatisfy usd price rules))
      else if rules.FallsShort price (rules.stepsAbove lots 1) then
        raiseToMinNotional usd price rules fuel (rules.stepsAbove lots 1)
      else some (.ok (toFixed (countDecimals rules.lot.stepSize) (rules.stepsAbove lots 1))) := by
  have one : lots + rules.lot.stepSize.value = rules.stepsAbove lots 1 := by
    unfold stepsAbove
    push_cast
    ring
  have exact := toFixed_lots (lots_stepsAbove isLots 1)
  rw [raiseToMinNotional, one]
  unfold notionalForQuantity FallsShort
  simp only [exact]
  rfl

theorem raise_ends {lots : ℚ} (isLots : rules.Lots lots) {steps fuel : ℕ}
    (meets : ¬ rules.FallsShort price (rules.stepsAbove lots (steps + 1))) (enough : steps < fuel) :
    ∃ result, raiseToMinNotional usd price rules fuel lots = some result := by
  induction steps generalizing lots fuel with
  | zero =>
    obtain ⟨rest, rfl⟩ := Nat.exists_eq_succ_of_ne_zero enough.ne'
    rw [raise_succ isLots, if_neg meets]
    split
    · exact ⟨_, rfl⟩
    · exact ⟨_, rfl⟩
  | succ steps inductionHypothesis =>
    obtain ⟨rest, rfl⟩ := Nat.exists_eq_succ_of_ne_zero (Nat.ne_zero_of_lt enough)
    rw [raise_succ isLots]
    split
    · exact ⟨_, rfl⟩
    · split
      · refine inductionHypothesis (lots_stepsAbove isLots 1) ?_ (Nat.lt_of_succ_lt_succ enough)
        rwa [stepsAbove_stepsAbove, Nat.add_comm 1]
      · exact ⟨_, rfl⟩

theorem raise_stable (isLots : rules.Lots lots) {fuel more : ℕ} {result : Except String Fixed}
    (ended : raiseToMinNotional usd price rules fuel lots = some result) (enough : fuel ≤ more) :
    raiseToMinNotional usd price rules more lots = some result := by
  induction fuel generalizing lots more with
  | zero => cases ended
  | succ fuel inductionHypothesis =>
    obtain ⟨rest, rfl⟩ := Nat.exists_eq_succ_of_ne_zero (Nat.ne_zero_of_lt enough)
    rw [raise_succ isLots] at ended ⊢
    split at ended
    · next beyond => rwa [if_pos beyond]
    · next limited =>
      rw [if_neg limited]
      split at ended
      · next short =>
        rw [if_pos short]
        exact inductionHypothesis (lots_stepsAbove isLots 1) ended (Nat.le_of_succ_le_succ enough)
      · next meets => rwa [if_neg meets]

/-- What the loop returns is the first number of steps that meet the minimum notional. -/
theorem raise_ok (isLots : rules.Lots lots) {fuel : ℕ} {raised : Fixed}
    (returned : raiseToMinNotional usd price rules fuel lots = some (.ok raised)) :
    ∃ steps, raised = toFixed (countDecimals rules.lot.stepSize) (rules.stepsAbove lots steps) ∧
      rules.stepsAbove lots steps ≤ rules.lot.maxQty.value + lotTolerance ∧
      ¬ rules.FallsShort price (rules.stepsAbove lots steps) ∧ 0 < steps ∧
      ∀ fewer, 0 < fewer → fewer < steps →
        rules.FallsShort price (rules.stepsAbove lots fewer) := by
  induction fuel generalizing lots with
  | zero => cases returned
  | succ fuel inductionHypothesis =>
    rw [raise_succ isLots] at returned
    split at returned
    · cases returned
    · next limited =>
      split at returned
      · next short =>
        obtain ⟨steps, isRaised, within, meets, positive, first⟩ :=
          inductionHypothesis (lots_stepsAbove isLots 1) returned
        simp only [stepsAbove_stepsAbove] at isRaised within meets first
        refine ⟨1 + steps, isRaised, within, meets, by omega, fun fewer someStep below => ?_⟩
        obtain isOne | later := Nat.eq_or_lt_of_le someStep
        · rwa [← isOne]
        · obtain ⟨rest, rfl⟩ := Nat.exists_eq_add_of_lt later
          have short := first (rest + 1) (Nat.succ_pos _) (by omega)
          rwa [← Nat.add_assoc] at short
      · next meets =>
        cases returned
        exact ⟨1, rfl, not_lt.mp limited, meets, one_pos, fun fewer some below => by omega⟩

/-- The loop starts from the adjusted quantity, where this falls short of a minimum notional. -/
theorem usdNotionalToBaseQuantity_eq (someUsd : 0 < usd) (positive : 0 < price)
    (isLots : rules.Lots lots)
    (isAdjusted : adjustQuantityToLotSize (usd / price) rules =
      .ok (toFixed (countDecimals rules.lot.stepSize) lots)) (fuel : ℕ) :
    usdNotionalToBaseQuantity fuel usd price rules =
      if rules.MeetsNotional price lots then
        some (.ok (toFixed (countDecimals rules.lot.stepSize) lots))
      else raiseToMinNotional usd price rules fuel lots := by
  unfold usdNotionalToBaseQuantity notionalForQuantity
  simp only [if_neg (not_le.mpr someUsd), if_neg (not_le.mpr positive), isAdjusted,
    toFixed_lots isLots]
  by_cases someMinimum : 0 < rules.minNotional
  · rw [if_neg (not_le.mpr someMinimum)]
    by_cases meets : lots * price ≥ rules.minNotional - notionalTolerance
    · have met : rules.MeetsNotional price lots := fun _ => meets
      rw [if_pos meets, if_pos met]
    · have unmet : ¬ rules.MeetsNotional price lots := fun met => meets (met someMinimum)
      rw [if_neg meets, if_neg unmet]
  · have met : rules.MeetsNotional price lots := fun isMinimum => absurd isMinimum someMinimum
    rw [if_pos (not_lt.mp someMinimum), if_pos met]

/-! ### What is returned -/

/-- The text of an order is accepted by the validators, and is the smallest whole number of steps
from the adjusted quantity on that meets the minimum notional. -/
structure Sized (rules : SymbolRules) (usd price : ℚ) (sent : Fixed) : Prop where
  valid : assertValidQuantityForSymbol sent rules = .ok sent.value
  notional : assertMinNotionalMet sent price rules = .ok ()
  smallest : ∃ adjusted, adjustQuantityToLotSize (usd / price) rules = .ok adjusted ∧
    IsLeast {lots | rules.Lots lots ∧ adjusted.value ≤ lots ∧ rules.MeetsNotional price lots}
      sent.value

/-- The sizing ends, and whatever it returns is sized as it should be. -/
def SoundlySized (rules : SymbolRules) (usd price : ℚ) : Prop :=
  ∃ fuel result,
    (∀ more, fuel ≤ more → usdNotionalToBaseQuantity more usd price rules = some result) ∧
      ∀ sent, result = .ok sent → rules.Sized usd price sent

/-- A notional of less than a step is sized to no quantity at all, and neither the smallest lot nor
the minimum notional stands in its way. -/
structure SizedToNothing (rules : SymbolRules) (usd price : ℚ) : Prop where
  someUsd : 0 < usd
  positive : 0 < rules.lot.stepSize.value
  short : usd / price + lotTolerance * rules.lot.stepSize.value < rules.lot.stepSize.value
  within : rules.Within 0
  meets : rules.MeetsNotional price 0

/-- Lots that meet the minimum notional first are sized as they should be, unless they are none. -/
theorem sized_iff (positive : 0 < rules.lot.stepSize.value) (somePrice : 0 < price) {adjusted : ℚ}
    (isAdjusted : rules.Lots adjusted)
    (returned : adjustQuantityToLotSize (usd / price) rules =
      .ok (toFixed (countDecimals rules.lot.stepSize) adjusted)) (nonneg : 0 ≤ adjusted)
    (within : rules.Within lots)
    (smallest : IsLeast {lots | rules.Lots lots ∧ adjusted ≤ lots ∧
      rules.MeetsNotional price lots} lots) :
    rules.Sized usd price (toFixed (countDecimals rules.lot.stepSize) lots) ↔ lots ≠ 0 := by
  obtain ⟨isLots, above, meets⟩ := smallest.1
  have exact := toFixed_lots isLots
  have valid := assertValidQuantityForSymbol_iff positive isLots within (nonneg.trans above)
  constructor
  · intro sized
    have accepted := sized.valid
    rw [exact] at accepted
    exact valid.mp accepted
  · intro someLots
    refine ⟨?_, ?_, _, returned, ?_⟩
    · rw [exact]
      exact valid.mpr someLots
    · rw [assertMinNotionalMet_iff somePrice, exact]
      exact meets
    · rw [exact, toFixed_lots isAdjusted]
      exact smallest

theorem exists_stepsAbove (positive : 0 < rules.lot.stepSize.value) {higher : ℚ}
    (isLots : rules.Lots lots) (isHigher : rules.Lots higher) (above : lots ≤ higher) :
    ∃ steps : ℕ, higher = rules.stepsAbove lots steps := by
  obtain ⟨first, rfl⟩ := isLots
  obtain ⟨last, rfl⟩ := isHigher
  have ordered : first ≤ last := by exact_mod_cast le_of_mul_le_mul_right above positive
  refine ⟨(last - first).toNat, ?_⟩
  have whole : (((last - first).toNat : ℤ) : ℚ) = last - first := by
    rw [Int.toNat_of_nonneg (Int.sub_nonneg.mpr ordered)]
    push_cast
    rfl
  unfold stepsAbove
  rw [show (((last - first).toNat : ℕ) : ℚ) = last - first by exact_mod_cast whole]
  ring

theorem exists_meets (positive : 0 < rules.lot.stepSize.value) (somePrice : 0 < price)
    {lots : ℚ} (nonneg : 0 ≤ lots) :
    ∃ steps, ¬ rules.FallsShort price (rules.stepsAbove lots (steps + 1)) := by
  have enough := Nat.le_ceil (rules.minNotional / (rules.lot.stepSize.value * price))
  refine ⟨⌈rules.minNotional / (rules.lot.stepSize.value * price)⌉₊, not_lt.mpr ?_⟩
  have tolerance : 0 < notionalTolerance := by
    unfold notionalTolerance
    norm_num
  have value := mul_pos positive somePrice
  rw [div_le_iff₀ value] at enough
  have notional : 0 ≤ lots * price := mul_nonneg nonneg somePrice.le
  unfold stepsAbove
  push_cast
  nlinarith

section Greatest

variable {quantity greatest least : ℚ} (positive : 0 < rules.lot.stepSize.value)
  (nonneg : 0 ≤ quantity) (isGreatest : IsGreatest {lots | rules.Holds quantity lots} greatest)
include positive nonneg isGreatest

theorem greatest_nonneg : 0 ≤ greatest := by
  have tolerated : 0 ≤ lotTolerance * rules.lot.stepSize.value :=
    mul_nonneg (by unfold lotTolerance; norm_num) positive.le
  exact isGreatest.2 ⟨⟨0, by push_cast; ring⟩, by linarith⟩

theorem greatest_eq_zero_iff :
    greatest = 0 ↔
      quantity + lotTolerance * rules.lot.stepSize.value < rules.lot.stepSize.value := by
  constructor
  · intro none
    by_contra enough
    have held := isGreatest.2 ⟨⟨1, by push_cast; ring⟩, not_lt.mp enough⟩
    linarith
  · intro short
    refine le_antisymm ?_ (greatest_nonneg positive nonneg isGreatest)
    obtain ⟨⟨steps, rfl⟩, below⟩ := isGreatest.1
    have less : (steps : ℚ) < 1 := by
      by_contra atLeast
      nlinarith [not_lt.mp atLeast]
    have none : steps ≤ 0 := Int.lt_add_one_iff.mp (by exact_mod_cast less)
    exact mul_nonpos_of_nonpos_of_nonneg (by exact_mod_cast none) positive.le

variable (within : rules.Within (rules.taken greatest least))
include within

/-- The lots of an order within the limits are not below zero. -/
theorem taken_nonneg : 0 ≤ rules.taken greatest least := by
  have held := greatest_nonneg positive nonneg isGreatest
  unfold taken at within ⊢
  split at within
  · next reaches => rwa [if_pos reaches]
  · next fallsShort =>
    rw [if_neg fallsShort]
    have above := not_le.mp fallsShort
    exact held.trans (above.le.trans within.1)

theorem taken_eq_zero_iff :
    rules.taken greatest least = 0 ↔
      quantity + lotTolerance * rules.lot.stepSize.value < rules.lot.stepSize.value ∧
        rules.Reaches 0 := by
  have none := greatest_eq_zero_iff positive nonneg isGreatest
  have held := greatest_nonneg positive nonneg isGreatest
  unfold taken at within ⊢
  split at within
  · next reaches =>
    rw [if_pos reaches, none]
    refine ⟨fun short => ⟨short, ?_⟩, And.left⟩
    rwa [← none.mpr short]
  · next fallsShort =>
    rw [if_neg fallsShort]
    constructor
    · intro isZero
      rw [isZero] at within
      exact absurd (within.1.trans held) fallsShort
    · rintro ⟨short, reaches⟩
      rw [none.mpr short] at fallsShort
      exact absurd reaches fallsShort

end Greatest

theorem raised_smallest (positive : 0 < rules.lot.stepSize.value) (isLots : rules.Lots lots)
    (unmet : ¬ rules.MeetsNotional price lots) {steps : ℕ}
    (meets : ¬ rules.FallsShort price (rules.stepsAbove lots steps))
    (first : ∀ fewer, 0 < fewer → fewer < steps →
      rules.FallsShort price (rules.stepsAbove lots fewer)) :
    IsLeast {higher | rules.Lots higher ∧ lots ≤ higher ∧ rules.MeetsNotional price higher}
      (rules.stepsAbove lots steps) := by
  have spaced (fewer : ℕ) : 0 ≤ (fewer : ℚ) * rules.lot.stepSize.value := by positivity
  have someMinimum : 0 < rules.minNotional := by
    by_contra noMinimum
    exact unmet fun isMinimum => absurd isMinimum noMinimum
  refine ⟨⟨lots_stepsAbove isLots steps, ?_, fun _ => not_lt.mp meets⟩, ?_⟩
  · exact le_add_of_nonneg_right (spaced steps)
  · rintro higher ⟨isHigher, above, met⟩
    obtain ⟨fewer, rfl⟩ := exists_stepsAbove positive isLots isHigher above
    by_contra below
    have earlier : fewer < steps := by
      by_contra later
      refine below ?_
      unfold stepsAbove
      have ordered : (steps : ℚ) ≤ fewer := by exact_mod_cast not_lt.mp later
      nlinarith
    obtain rfl | someStep := Nat.eq_zero_or_pos fewer
    · refine unmet ?_
      simpa [stepsAbove] using met
    · exact absurd (met someMinimum) (not_le.mpr (first fewer someStep earlier))

/-- The sizing ends, and what it returns is accepted by the validators and as small as it can be,
except where it returns no quantity at all. -/
theorem soundlySized_iff (somePrice : 0 < price) :
    rules.SoundlySized usd price ↔ ¬ rules.SizedToNothing usd price := by
  by_cases someUsd : 0 < usd
  swap
  · refine iff_of_true ⟨0, .error "usd must be positive", fun more _ => ?_, nofun⟩
      fun nothing => someUsd nothing.someUsd
    unfold usdNotionalToBaseQuantity
    rw [if_pos (not_lt.mp someUsd)]
  by_cases positive : 0 < rules.lot.stepSize.value
  swap
  · refine iff_of_true ⟨0, .error "Invalid stepSize", fun more _ => ?_, nofun⟩
      fun nothing => positive nothing.positive
    unfold usdNotionalToBaseQuantity adjustQuantityToLotSize
    simp only [if_neg (not_le.mpr someUsd), if_neg (not_le.mpr somePrice),
      if_pos (not_lt.mp positive)]
  have nonneg : 0 ≤ usd / price := (div_pos someUsd somePrice).le
  have isGreatest := @isGreatest_holds rules (usd / price) positive
  have isLeast := @isLeast_leastLots rules positive
  set greatest : ℚ := flooredSteps (usd / price) rules.lot.stepSize.value * rules.lot.stepSize.value
  set least : ℚ := minimumSteps rules.lot.minQty.value rules.lot.stepSize.value *
    rules.lot.stepSize.value
  have isAdjusted {adjusted : Fixed} :=
    @adjusted_iff rules (usd / price) positive greatest least adjusted isGreatest isLeast
  have isLots := lots_taken isGreatest isLeast
  by_cases within : rules.Within (rules.taken greatest least)
  swap
  · cases answer : adjustQuantityToLotSize (usd / price) rules with
    | ok adjusted => exact absurd (isAdjusted.mp answer).1 within
    | error message =>
      refine iff_of_true ⟨0, .error message, fun more _ => ?_, nofun⟩ fun nothing => within ?_
      · unfold usdNotionalToBaseQuantity
        simp only [if_neg (not_le.mpr someUsd), if_neg (not_le.mpr somePrice), answer]
      · have none := (greatest_eq_zero_iff positive nonneg isGreatest).mpr nothing.short
        rw [none, taken, if_pos nothing.within.1]
        exact nothing.within
  have isTaken := isAdjusted.mpr ⟨within, rfl⟩
  have isZero := taken_eq_zero_iff positive nonneg isGreatest within
  have held : 0 ≤ rules.taken greatest least := taken_nonneg positive nonneg isGreatest within
  have isSized := usdNotionalToBaseQuantity_eq someUsd somePrice isLots isTaken
  by_cases meets : rules.MeetsNotional price (rules.taken greatest least)
  · have smallest : IsLeast {lots | rules.Lots lots ∧ rules.taken greatest least ≤ lots ∧
        rules.MeetsNotional price lots} (rules.taken greatest least) :=
      ⟨⟨isLots, le_rfl, meets⟩, fun lots higher => higher.2.1⟩
    have sized := sized_iff positive somePrice isLots isTaken held within smallest
    have sound : rules.SoundlySized usd price ↔
        rules.Sized usd price (toFixed (countDecimals rules.lot.stepSize)
          (rules.taken greatest least)) := by
      constructor
      · rintro ⟨fuel, result, ends, sound⟩
        have ended := ends fuel le_rfl
        rw [isSized, if_pos meets] at ended
        exact sound _ (Option.some.inj ended).symm
      · intro isSound
        refine ⟨0, _, fun more _ => (isSized more).trans (if_pos meets), fun sent isSent => ?_⟩
        rwa [← Except.ok.inj isSent]
    rw [sound, sized, ne_eq, isZero]
    refine not_congr ⟨fun none => ?_, fun nothing => ⟨nothing.short, nothing.within.1⟩⟩
    rw [isZero.mpr none] at within meets
    exact ⟨someUsd, positive, none.1, within, meets⟩
  · have something : ¬ rules.SizedToNothing usd price := by
      intro nothing
      rw [isZero.mpr ⟨nothing.short, nothing.within.1⟩] at meets
      exact meets nothing.meets
    refine iff_of_true ?_ something
    obtain ⟨steps, enough⟩ := @exists_meets rules price positive somePrice _ held
    obtain ⟨result, ends⟩ :=
      @raise_ends rules usd price _ isLots steps (steps + 1) enough (Nat.lt_succ_self steps)
    refine ⟨steps + 1, result, fun more later => ?_, fun sent isSent => ?_⟩
    · rw [isSized, if_neg meets]
      exact raise_stable isLots ends later
    · rw [isSent] at ends
      obtain ⟨raisedBy, rfl, limited, met, someStep, first⟩ := raise_ok isLots ends
      have raised : rules.taken greatest least <
          rules.stepsAbove (rules.taken greatest least) raisedBy := by
        have some : (0 : ℚ) < raisedBy := by exact_mod_cast someStep
        exact lt_add_of_pos_right _ (mul_pos some positive)
      refine (sized_iff positive somePrice isLots isTaken held
        ⟨within.1.trans raised.le, limited⟩
        (raised_smallest positive isLots meets met first)).mpr ?_
      exact (held.trans_lt raised).ne'

/-- A budget of six dollars at a price of ten thousand. -/
theorem soundlySized_hundredThousandths : hundredThousandths.SoundlySized 6 10000 := by
  refine (soundlySized_iff (by norm_num)).mpr fun nothing => ?_
  have short := nothing.short
  norm_num [hundredThousandths, Fixed.value, lotTolerance] at short

/-- The rules of a symbol with a step of a hundredth, and neither a smallest lot nor a minimum
notional. -/
def hundredths : SymbolRules where
  symbol := "ABCUSDT"
  lot := ⟨⟨0, 2⟩, ⟨10000000, 2⟩, ⟨1, 2⟩⟩
  minNotional := 0

/-- A budget of a tenth of a cent is sized to no quantity. -/
theorem not_soundlySized : ¬ hundredths.SoundlySized (1 / 1000) 1 := by
  rintro ⟨fuel, result, ends, sound⟩
  have isZero : usdNotionalToBaseQuantity fuel (1 / 1000) 1 hundredths = some (.ok ⟨0, 2⟩) := by
    have first := ends fuel le_rfl
    rw [usdNotionalToBaseQuantity, show adjustQuantityToLotSize (1 / 1000 / 1) hundredths =
      .ok ⟨0, 2⟩ by decide +kernel]
    norm_num [hundredths]
  have sized := sound ⟨0, 2⟩ (Option.some.inj ((ends fuel le_rfl).symm.trans isZero))
  have rejected : assertValidQuantityForSymbol ⟨0, 2⟩ hundredths =
      .error "Quantity must be a positive finite number" := by decide +kernel
  exact absurd (rejected.symm.trans sized.valid) nofun

end SymbolRules

end GdslExchange.Orders
