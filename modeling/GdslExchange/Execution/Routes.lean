/-
This file models the comparison of routes by `executionEngineService`: the raw amount that is
quoted, the score of each quote and the choice of the best. The quotes themselves are given.

The ranking is as it should be for all quotes. The raw amount is not: of a mint that is neither
SOL nor USDC the service takes the decimals to be six, where `resolveSpendMint` asks the chain.
-/

import GdslExchange.Jupiter.Swap
import GdslExchange.Text.Upper

namespace GdslExchange.Execution

open Jupiter (Side solNativeMint solUsdcMint toSmallest)
open Numeric

inductive RouterId where
  | jupiterMetis
  | raydium
  | orca
  | meteora
  | phoenix
  | openbook
  | sanctum
  | pumpswap
  | lifinity
  | crema
  | fluxbeam
  | goosefx
  | okxDex
deriving DecidableEq

/-! ### What has been executed -/

/-- The outcomes of one mint and side. Of each router there are as many wins as it has won. -/
structure RouteMemory where
  samples : ℕ
  failRate : ℚ
  wins : List RouterId
  failRate_mem : failRate ∈ Set.Icc 0 1

def noOutcomes : RouteMemory := ⟨0, 0, [], le_rfl, zero_le_one⟩

theorem failRate_record (cur : RouteMemory) (success : Bool) :
    (cur.failRate * cur.samples + if success then 0 else 1) / (cur.samples + 1) ∈
      Set.Icc (0 : ℚ) 1 := by
  obtain ⟨nonneg, bound⟩ := cur.failRate_mem
  have samples : (0 : ℚ) ≤ cur.samples := Nat.cast_nonneg _
  have failed : (if success then 0 else 1 : ℚ) ∈ Set.Icc 0 1 := by
    cases success <;> simp
  refine ⟨div_nonneg (add_nonneg (mul_nonneg nonneg samples) failed.1) (by linarith), ?_⟩
  rw [div_le_one (by linarith)]
  exact add_le_add (mul_le_of_le_one_left samples bound) failed.2

def recordRouteOutcome (cur : RouteMemory) (router : RouterId) (success : Bool) : RouteMemory where
  samples := cur.samples + 1
  failRate := (cur.failRate * cur.samples + if success then 0 else 1) / (cur.samples + 1)
  wins := if success then router :: cur.wins else cur.wins
  failRate_mem := failRate_record cur success

def historicalFillScore (memory? : Option RouteMemory) (router : RouterId) : ℚ :=
  match memory? with
  | none => 7 / 10
  | some memory =>
    if memory.samples < 3 then 7 / 10
    else
      let totalWins := if memory.wins.length = 0 then 1 else memory.wins.length
      let share : ℚ := memory.wins.count router / totalWins
      max (1 / 5) (min 1 (2 / 5 + share * (3 / 5))) * (1 - memory.failRate * (1 / 2))

theorem historicalFillScore_mem (memory? : Option RouteMemory) (router : RouterId) :
    historicalFillScore memory? router ∈ Set.Icc 0 1 := by
  have unknown : (7 / 10 : ℚ) ∈ Set.Icc 0 1 := by norm_num
  cases memory? with
  | none => exact unknown
  | some memory =>
    unfold historicalFillScore
    dsimp only
    split
    · exact unknown
    · obtain ⟨nonneg, bound⟩ := memory.failRate_mem
      refine ⟨mul_nonneg (le_max_of_le_left (by norm_num)) (by linarith), ?_⟩
      refine mul_le_one₀ (max_le (by norm_num) (min_le_left _ _)) (by linarith) (by linarith)

/-! ### Scores -/

/-- A quote, as far as the ranking reads it. -/
structure Raw where
  router : RouterId
  outAmount : ℚ
  latencyMs : ℚ
  priceImpactPct : Option ℚ
  canExecute : Bool
  error : Option String

structure RouteCandidate where
  router : RouterId
  outAmount : ℚ
  latencyMs : ℚ
  priceImpactPct : Option ℚ
  score : ℚ
  executable : Bool
  canExecute : Bool

def scoreRoute (outAmount bestOut latencyMs : ℚ) (priceImpactPct : Option ℚ)
    (histFill mevRisk : ℚ) : ℚ :=
  let outputScore := if 0 < bestOut then min 1 (outAmount / bestOut) else 0
  let speedScore := max (15 / 100) (min 1 (1 - (latencyMs - 80) / 1600))
  let impact := |priceImpactPct.getD (15 / 100)|
  let impactScore := max (1 / 10) (min 1 (1 - impact / 2))
  let mevScore := max 0 (1 - mevRisk)
  100 * (1 / 2 * outputScore + 1 / 5 * speedScore + 15 / 100 * impactScore + 1 / 10 * histFill +
    5 / 100 * mevScore)

def mevRiskFor : RouterId → ℚ
  | .jupiterMetis => 35 / 100
  | .okxDex => 3 / 10
  | .phoenix | .openbook => 15 / 100
  | _ => 22 / 100

/-- `r.outAmount > 0 && !r.error`. -/
def Raw.executable (raw : Raw) : Bool := 0 < raw.outAmount && (raw.error.getD "" == "")

def bestOutOf (raws : List Raw) : ℚ :=
  ((raws.filter fun raw => 0 < raw.outAmount).map Raw.outAmount).foldl max 0

def routeOf (memory? : Option RouteMemory) (bestOut : ℚ) (raw : Raw) : RouteCandidate :=
  let score :=
    if raw.executable then
      scoreRoute raw.outAmount (if bestOut = 0 then raw.outAmount else bestOut) raw.latencyMs
        raw.priceImpactPct (historicalFillScore memory? raw.router) (mevRiskFor raw.router)
    else 0
  { router := raw.router
    outAmount := raw.outAmount
    latencyMs := raw.latencyMs
    priceImpactPct := raw.priceImpactPct
    score := roundTo 1 score
    executable := raw.executable
    canExecute := raw.canExecute && raw.executable }

/-- The routes, the highest score first. -/
def routesOf (memory? : Option RouteMemory) (raws : List Raw) : List RouteCandidate :=
  (raws.map (routeOf memory? (bestOutOf raws))).mergeSort fun a b => b.score ≤ a.score

def bestOf (routes : List RouteCandidate) : Option RouteCandidate :=
  (routes.find? RouteCandidate.canExecute).or (routes.find? RouteCandidate.executable)

theorem clamped_mem {low value : ℚ} (nonneg : 0 ≤ low) (bound : low ≤ 1) :
    max low (min 1 value) ∈ Set.Icc 0 1 :=
  ⟨le_max_of_le_left nonneg, max_le bound (min_le_left _ _)⟩

theorem scoreRoute_mem {outAmount bestOut latencyMs histFill mevRisk : ℚ}
    {priceImpactPct : Option ℚ} (out : 0 ≤ outAmount) (best : 0 ≤ bestOut)
    (fill : histFill ∈ Set.Icc 0 1) (risk : 0 ≤ mevRisk) :
    scoreRoute outAmount bestOut latencyMs priceImpactPct histFill mevRisk ∈ Set.Icc 0 100 := by
  have output : (if 0 < bestOut then min 1 (outAmount / bestOut) else 0) ∈ Set.Icc (0 : ℚ) 1 := by
    split
    · exact ⟨le_min zero_le_one (div_nonneg out best), min_le_left _ _⟩
    · exact ⟨le_rfl, zero_le_one⟩
  have speed := @clamped_mem (15 / 100) (1 - (latencyMs - 80) / 1600) (by norm_num) (by norm_num)
  have impact := @clamped_mem (1 / 10) (1 - |priceImpactPct.getD (15 / 100)| / 2) (by norm_num)
    (by norm_num)
  have mev : max 0 (1 - mevRisk) ∈ Set.Icc (0 : ℚ) 1 :=
    ⟨le_max_left _ _, max_le zero_le_one (by linarith)⟩
  unfold scoreRoute
  simp only [Set.mem_Icc] at output speed impact fill mev ⊢
  constructor <;> linarith

theorem scoreRoute_mono {less more bestOut latencyMs histFill mevRisk : ℚ}
    {priceImpactPct : Option ℚ} (le : less ≤ more) :
    scoreRoute less bestOut latencyMs priceImpactPct histFill mevRisk ≤
      scoreRoute more bestOut latencyMs priceImpactPct histFill mevRisk := by
  have output : (if 0 < bestOut then min 1 (less / bestOut) else 0) ≤
      if 0 < bestOut then min 1 (more / bestOut) else 0 := by
    split
    next positive => exact min_le_min_left _ (div_le_div_of_nonneg_right le positive.le)
    next => exact le_rfl
  unfold scoreRoute
  linarith

/-! ### The comparison -/

/-- What is asked to be compared, as far as the amounts and the ranking go. -/
structure CompareRequest where
  side : Side
  amount : ℚ
  spendMint : Option String
  tokenDecimals : ℕ
  amount_pos : 0 < amount

/-- `opts.spendMint?.trim() || SOL_USDC_MINT`. -/
def CompareRequest.spend (request : CompareRequest) : String :=
  ((request.spendMint.map Text.trim).filter (· ≠ "")).getD solUsdcMint

def inDecimals (request : CompareRequest) : ℕ :=
  match request.side with
  | .buy =>
    if request.spend = solNativeMint then 9
    else if request.spend = solUsdcMint then 6
    else 6
  | .sell => request.tokenDecimals

def amountRaw (request : CompareRequest) : ℕ := toSmallest request.amount (inDecimals request)

def trueDecimals (mintDecimals : String → ℕ) (request : CompareRequest) : ℕ :=
  match request.side with
  | .buy => mintDecimals request.spend
  | .sell => request.tokenDecimals

/-- The best of some routes: one of them, with the highest score. -/
def IsBestOf (routes : List RouteCandidate) (eligible : RouteCandidate → Bool)
    (best : RouteCandidate) : Prop :=
  best ∈ routes ∧ eligible best ∧ ∀ route ∈ routes, eligible route → route.score ≤ best.score

/-- Routes are ranked by outcome, for the amount that was asked for. -/
structure RanksByOutcome (mintDecimals : String → ℕ) (request : CompareRequest)
    (memory? : Option RouteMemory) (raws : List Raw) : Prop where
  amount : |(amountRaw request : ℚ) - request.amount * 10 ^ trueDecimals mintDecimals request| < 1
  scores : ∀ route ∈ routesOf memory? raws, route.score ∈ Set.Icc 0 100
  outputs : ∀ less ∈ raws, ∀ more ∈ raws, more = { less with outAmount := more.outAmount } →
    less.executable → more.executable → less.outAmount ≤ more.outAmount →
    (routeOf memory? (bestOutOf raws) less).score ≤ (routeOf memory? (bestOutOf raws) more).score
  preferred : (∃ route ∈ routesOf memory? raws, route.canExecute) →
    ∃ best, bestOf (routesOf memory? raws) = some best ∧
      IsBestOf (routesOf memory? raws) RouteCandidate.canExecute best
  otherwise : (∀ route ∈ routesOf memory? raws, ¬ route.canExecute) →
    (∃ route ∈ routesOf memory? raws, route.executable) →
    ∃ best, bestOf (routesOf memory? raws) = some best ∧
      IsBestOf (routesOf memory? raws) RouteCandidate.executable best

/-! ### The ranking -/

section Ranking

variable (memory? : Option RouteMemory) {raws : List Raw}

theorem bestOutOf_nonneg : 0 ≤ bestOutOf raws := by
  unfold bestOutOf
  generalize (raws.filter fun raw => 0 < raw.outAmount).map Raw.outAmount = amounts
  have all (start : ℚ) : start ≤ amounts.foldl max start := by
    induction amounts generalizing start with
    | nil => exact le_rfl
    | cons amount rest inductionHypothesis =>
      exact (le_max_left start amount).trans (inductionHypothesis _)
  exact all 0

theorem Raw.outAmount_pos {raw : Raw} (executable : raw.executable) : 0 < raw.outAmount := by
  simp only [Raw.executable, Bool.and_eq_true, decide_eq_true_eq] at executable
  exact executable.1

theorem score_mem (raw : Raw) :
    (routeOf memory? (bestOutOf raws) raw).score ∈ Set.Icc 0 100 := by
  have bounds {score : ℚ} (member : score ∈ Set.Icc 0 100) : roundTo 1 score ∈ Set.Icc 0 100 := by
    have zero := roundTo_mono 1 member.1
    have hundred := roundTo_mono 1 member.2
    have exact : roundTo 1 100 = 100 := by norm_num [roundTo, Numeric.round]
    rw [roundTo_zero] at zero
    rw [exact] at hundred
    exact ⟨zero, hundred⟩
  refine bounds ?_
  split
  next executable =>
    have positive := (Raw.outAmount_pos executable).le
    refine scoreRoute_mem positive ?_ (historicalFillScore_mem _ _) ?_
    · split
      · exact positive
      · exact bestOutOf_nonneg
    · unfold mevRiskFor
      split <;> norm_num
  next => exact ⟨le_rfl, by norm_num⟩

theorem score_mono {less more : Raw} (alike : more = { less with outAmount := more.outAmount })
    (first : less.executable) (second : more.executable) (le : less.outAmount ≤ more.outAmount)
    (bestOut : ℚ) :
    (routeOf memory? bestOut less).score ≤ (routeOf memory? bestOut more).score := by
  have own (raw : Raw) (executable : raw.executable) :
      min 1 (raw.outAmount / raw.outAmount) = 1 := by
    rw [div_self (Raw.outAmount_pos executable).ne', min_self]
  refine roundTo_mono 1 ?_
  rw [if_pos first, if_pos second]
  have outputs := own more second
  have positive := Raw.outAmount_pos second
  generalize more.outAmount = out at alike le outputs positive ⊢
  subst alike
  split
  · unfold scoreRoute
    rw [own less first, outputs, if_pos positive, if_pos (Raw.outAmount_pos first)]
  · exact scoreRoute_mono le

/-- The first eligible route, the highest score first, is the best of the eligible ones. -/
theorem isBestOf_find {eligible : RouteCandidate → Bool} {best : RouteCandidate}
    (found : (routesOf memory? raws).find? eligible = some best) :
    IsBestOf (routesOf memory? raws) eligible best := by
  have sorted : (routesOf memory? raws).Pairwise fun a b => decide (b.score ≤ a.score) :=
    List.pairwise_mergeSort (fun _ _ _ first second => by
      rw [decide_eq_true_eq] at *
      exact second.trans first) (fun a b => by simpa using le_total b.score a.score) _
  obtain ⟨holds, before, after, isRoutes, none⟩ := List.find?_eq_some_iff_append.mp found
  refine ⟨List.mem_of_find?_eq_some found, holds, fun route member isEligible => ?_⟩
  rw [isRoutes] at member sorted
  obtain earlier | here := List.mem_append.mp member
  · simpa [isEligible] using none route earlier
  · obtain rfl | later := List.mem_cons.mp here
    · exact le_rfl
    · simpa using List.rel_of_pairwise_cons (List.pairwise_append.mp sorted).2.1 later

end Ranking

/-! ### The amount -/

theorem toSmallest_cases (amount : ℚ) (decimals : ℕ) :
    (toSmallest amount decimals : ℚ) = 1 ∧ amount * 10 ^ decimals < 2 ∨
      2 ≤ (toSmallest amount decimals : ℚ) ∧
        (toSmallest amount decimals : ℚ) ≤ amount * 10 ^ decimals ∧
        amount * 10 ^ decimals < toSmallest amount decimals + 1 := by
  have isMax : ((toSmallest amount decimals : ℕ) : ℤ) = max 1 ⌊amount * 10 ^ decimals⌋ :=
    Int.toNat_of_nonneg (zero_le_one.trans (le_max_left _ _))
  have isRaw : (toSmallest amount decimals : ℚ) = ((max 1 ⌊amount * 10 ^ decimals⌋ : ℤ) : ℚ) := by
    rw [← isMax, Int.cast_natCast]
  rw [isRaw]
  generalize amount * 10 ^ decimals = exact
  obtain few | more := lt_or_ge exact 2
  · have floor : ⌊exact⌋ ≤ 1 := Int.lt_add_one_iff.mp (Int.floor_lt.mpr (by norm_num [few]))
    rw [max_eq_left floor]
    exact .inl ⟨Int.cast_one, few⟩
  · have floor : 2 ≤ ⌊exact⌋ := Int.le_floor.mpr (by norm_num [more])
    rw [max_eq_right (by omega)]
    exact .inr ⟨by exact_mod_cast floor, Int.floor_le _, Int.lt_floor_add_one _⟩

theorem ten_units_le {amount : ℚ} (positive : 0 < amount) {fewer more : ℕ} (lt : fewer < more) :
    10 * (amount * 10 ^ fewer) ≤ amount * 10 ^ more := by
  have powers : (10 : ℚ) ^ (fewer + 1) ≤ 10 ^ more := pow_le_pow_right₀ (by norm_num) lt
  calc 10 * (amount * 10 ^ fewer) = amount * 10 ^ (fewer + 1) := by ring
    _ ≤ amount * 10 ^ more := mul_le_mul_of_nonneg_left powers positive.le

/-- A guess that is off by a place or more is off by a unit or more, unless the amount is less
than two units either way. -/
theorem represents_iff {amount : ℚ} (positive : 0 < amount) (guess decimals : ℕ) :
    |(toSmallest amount guess : ℚ) - amount * 10 ^ decimals| < 1 ↔
      guess = decimals ∨ amount * 10 ^ guess < 2 ∧ amount * 10 ^ decimals < 2 := by
  have units : 0 < amount * 10 ^ decimals := by positivity
  rw [abs_lt]
  constructor
  · rintro ⟨above, below⟩
    obtain ⟨isOne, few⟩ | ⟨two, least, most⟩ := toSmallest_cases amount guess
    · exact .inr ⟨few, by linarith⟩
    · obtain fewer | same | more := lt_trichotomy guess decimals
      · have tenfold := ten_units_le positive fewer
        linarith
      · exact .inl same
      · have tenfold := ten_units_le positive more
        linarith
  · rintro (rfl | ⟨fewGuessed, few⟩)
    · obtain ⟨isOne, few⟩ | ⟨-, least, most⟩ := toSmallest_cases amount guess <;>
        constructor <;> linarith
    · obtain ⟨isOne, -⟩ | ⟨two, least, -⟩ := toSmallest_cases amount guess
      · constructor <;> linarith
      · linarith

/-- The ranking is by outcome exactly where the decimals are guessed right, or where the amount
is less than two units with either decimals. -/
theorem ranksByOutcome_iff (mintDecimals : String → ℕ) (request : CompareRequest)
    (memory? : Option RouteMemory) (raws : List Raw) :
    RanksByOutcome mintDecimals request memory? raws ↔
      inDecimals request = trueDecimals mintDecimals request ∨
        request.amount * 10 ^ inDecimals request < 2 ∧
          request.amount * 10 ^ trueDecimals mintDecimals request < 2 := by
  rw [← represents_iff request.amount_pos]
  constructor
  · exact RanksByOutcome.amount
  · intro amount
    refine ⟨amount, fun route member => ?_, fun less _ more _ alike first second le =>
      score_mono memory? alike first second le _, ?_, ?_⟩
    · obtain ⟨raw, -, rfl⟩ := List.mem_map.mp (List.mem_mergeSort.mp member)
      exact score_mem memory? raw
    · intro some
      obtain ⟨best, found⟩ := Option.isSome_iff_exists.mp (List.find?_isSome.mpr some)
      exact ⟨best, by rw [bestOf, found, Option.some_or], isBestOf_find memory? found⟩
    · intro none some
      obtain ⟨best, found⟩ := Option.isSome_iff_exists.mp (List.find?_isSome.mpr some)
      exact ⟨best, by rw [bestOf, List.find?_eq_none.mpr none, Option.none_or, found],
        isBestOf_find memory? found⟩

/-- One unit of a mint of five decimals. -/
private theorem bonkAmount_pos : (0 : ℚ) < 1 := one_pos

def bonkBuy : CompareRequest :=
  ⟨.buy, 1, some "DezXAZ8z7PnrnRJjz3wXBoRgixCa6xjnB7YaB1pPB263", 9, bonkAmount_pos⟩

theorem not_ranksByOutcome_bonkBuy :
    ¬ RanksByOutcome (fun _ => 5) bonkBuy none
      [⟨.jupiterMetis, 1 / 10000000, 120, some (1 / 100), true, none⟩] := by
  have guessed : inDecimals bonkBuy = 6 := by decide +kernel
  have isTrue : trueDecimals (fun _ => 5) bonkBuy = 5 := rfl
  intro ranks
  have amount := ranks.amount
  rw [amountRaw, represents_iff bonkBuy.amount_pos, guessed, isTrue] at amount
  norm_num [bonkBuy] at amount

end GdslExchange.Execution
