/-
This file models the verdict on the two sides of a prediction market, and settles when it backs a
side that is worth backing.

A side is backed only if it meets the thresholds. But the side with the larger expected value is
picked before they are tried, so a cheap contract with a small edge can hide the other side.
-/

import GdslExchange.Numeric.Fixed
import Mathlib.Data.List.Sort

namespace GdslExchange.JupiterPrediction

open Numeric

/-! ### The verdict -/

inductive ContractSide where
  | yes
  | no
deriving DecidableEq

def ContractSide.other : ContractSide → ContractSide
  | yes => no
  | no => yes

def ContractSide.label : ContractSide → String
  | yes => "YES"
  | no => "NO"

structure SideSuggestion where
  side : ContractSide
  price : ℚ
  impliedProb : ℚ
  ourProb : ℚ
  edgePct : ℚ
  evPerDollar : ℚ
deriving DecidableEq

inductive VerdictAction where
  | buyYes
  | buyNo
  | skip
deriving DecidableEq

def ContractSide.buy : ContractSide → VerdictAction
  | yes => .buyYes
  | no => .buyNo

structure EdgeVerdict where
  action : VerdictAction
  best : Option SideSuggestion
  reasons : List String
  cautions : List String

structure EdgeInput where
  yesPriceMicro : Option ℚ
  noPriceMicro : Option ℚ
  ourProbYes : Option ℚ
  volumeUsd : Option ℚ
  days : Option ℚ

def impliedProbability (microUsd : Option ℚ) : Option ℚ :=
  microUsd.bind fun microUsd =>
    let p := microUsd / 1000000
    if p > 0 ∧ p < 1 then some p else none

def expectedValuePerDollar (prob price : ℚ) : Option ℚ :=
  if ¬ (price > 0) ∨ ¬ (price < 1) then none
  else if ¬ (prob ≥ 0) ∨ ¬ (prob ≤ 1) then none
  else some (prob / price - 1)

def minEv : ℚ := 8 / 100

def minEdgePct : ℚ := 7

def minVolumeUsd : ℚ := 5000

def toLocaleString (number : ℤ) : String :=
  let groups := ((toString number.natAbs).toList.reverse.toChunks 3).reverse.map fun group =>
    String.ofList group.reverse
  (if number < 0 then "-" else "") ++ String.intercalate "," groups

/-- What backing a side offers, where its price and our probability are in range. -/
def offer (side : ContractSide) (prob price : ℚ) : Option SideSuggestion :=
  (expectedValuePerDollar prob price).map fun ev =>
    { side := side
      price := price
      impliedProb := price
      ourProb := prob
      edgePct := (prob - price) * 100
      evPerDollar := ev }

def fixed (places : ℕ) (number : ℚ) : String := (toFixed places number).render

def spreadCautions (yesPrice noPrice : ℚ) : List String :=
  let bookCost := (yesPrice + noPrice - 1) * 100
  if bookCost > 6 then
    [s!"Spread costs {fixed 1 bookCost}c per contract — that comes out of any edge."]
  else []

def EdgeInput.volume (input : EdgeInput) : ℚ := input.volumeUsd.getD 0

def exitCautions (input : EdgeInput) : List String :=
  (if input.volume < minVolumeUsd then
    [s!"Only ${toLocaleString (Numeric.round input.volume)} traded here — " ++
      "you may not be able to sell before settlement."]
  else []) ++
  (if input.days.any (· > 365) then
    ["More than a year to settlement — your money is tied up for a long time."]
  else [])

def closeReasons (best : SideSuggestion) : List String :=
  if best.edgePct < minEdgePct then
    [s!"Market is priced close to our own estimate ({fixed 0 (best.impliedProb * 100)}% vs " ++
      s!"{fixed 0 (best.ourProb * 100)}%), so there is no edge worth paying the spread for."]
  else []

def buyReasons (best : SideSuggestion) : List String :=
  [s!"Market prices {best.side.label} at {fixed 0 (best.price * 100)}c " ++
      s!"({fixed 0 (best.impliedProb * 100)}% chance) while our volatility model says " ++
      s!"{fixed 0 (best.ourProb * 100)}%.",
    s!"That is a {fixed 0 best.edgePct} point edge, worth about " ++
      s!"{fixed 0 (best.evPerDollar * 100)}c of expected profit per $1 staked."]

def meetsThresholds (input : EdgeInput) (suggestion : SideSuggestion) : Bool :=
  suggestion.evPerDollar ≥ minEv ∧ suggestion.edgePct ≥ minEdgePct ∧ input.volume ≥ minVolumeUsd

/-- The sides that can be backed, larger expected value first. The sort is stable. -/
def rankedSides (ourYes yesPrice noPrice : ℚ) : List SideSuggestion :=
  ((offer .yes ourYes yesPrice).toList ++ (offer .no (1 - ourYes) noPrice).toList).insertionSort
    fun a b => b.evPerDollar ≤ a.evPerDollar

/-- Picks the side worth backing, if any. -/
def judgeEdge (input : EdgeInput) : EdgeVerdict :=
  match impliedProbability input.yesPriceMicro, impliedProbability input.noPriceMicro with
  | some yesPrice, some noPrice =>
    let cautions := spreadCautions yesPrice noPrice
    match input.ourProbYes with
    | none => ⟨.skip, none, [], cautions ++
        ["No model estimate for this market, so there is no measurable edge — " ++
          "trade it on your own view."]⟩
    | some ourYes =>
      match rankedSides ourYes yesPrice noPrice with
      | [] => ⟨.skip, none, [], cautions ++ ["Prices are outside a tradable range."]⟩
      | best :: _ =>
        let cautions := cautions ++ exitCautions input
        if meetsThresholds input best then
          ⟨best.side.buy, some best, buyReasons best, cautions⟩
        else ⟨.skip, some best, closeReasons best, cautions⟩
  | _, _ => ⟨.skip, none, [], ["No two-sided price on this market yet."]⟩

/-! ### The property and the condition -/

def EdgeInput.offer (input : EdgeInput) (side : ContractSide) : Option SideSuggestion := do
  let yesPrice ← impliedProbability input.yesPriceMicro
  let noPrice ← impliedProbability input.noPriceMicro
  let ourYes ← input.ourProbYes
  match side with
  | .yes => JupiterPrediction.offer .yes ourYes yesPrice
  | .no => JupiterPrediction.offer .no (1 - ourYes) noPrice

/-- A side that offers this and meets the thresholds. -/
def Qualifies (input : EdgeInput) (side : ContractSide) (suggestion : SideSuggestion) : Prop :=
  input.offer side = some suggestion ∧ minEv ≤ suggestion.evPerDollar ∧
    minEdgePct ≤ suggestion.edgePct ∧ minVolumeUsd ≤ input.volume

/-- Only a qualifying side of the largest expected value is backed, and one is if any qualifies. -/
structure JudgesWell (input : EdgeInput) : Prop where
  sound : ∀ side, (judgeEdge input).action = side.buy → ∃ suggestion,
    Qualifies input side suggestion ∧ ∀ other otherSuggestion,
      Qualifies input other otherSuggestion →
        otherSuggestion.evPerDollar ≤ suggestion.evPerDollar
  complete : ∀ side suggestion, Qualifies input side suggestion →
    (judgeEdge input).action ≠ .skip

/-- No side that qualifies stands behind one whose edge is too small: such a side has the smaller
expected value, or the same one where it is NO. -/
def Unhidden (input : EdgeInput) : Prop :=
  ∀ side suggestion other, Qualifies input side suggestion →
    input.offer side.other = some other → other.edgePct < minEdgePct →
      other.evPerDollar < suggestion.evPerDollar ∨
        (side = .yes ∧ other.evPerDollar = suggestion.evPerDollar)

/-! ### The side that is picked -/

section Verdict

variable {input : EdgeInput} {yes no : SideSuggestion}

theorem buy_ne_skip (side : ContractSide) : side.buy ≠ .skip := by
  cases side <;> nofun

theorem buy_injective : Function.Injective ContractSide.buy := by
  intro first second same
  cases first <;> cases second <;> first | rfl | cases same

theorem side_of_offer {side : ContractSide} {prob price : ℚ} {suggestion : SideSuggestion}
    (offered : offer side prob price = some suggestion) : suggestion.side = side := by
  obtain ⟨ev, -, rfl⟩ := Option.map_eq_some_iff.mp offered
  rfl

theorem side_of_inputOffer {side : ContractSide} {suggestion : SideSuggestion}
    (offered : input.offer side = some suggestion) : suggestion.side = side := by
  obtain ⟨yesPrice, -, offered⟩ := Option.bind_eq_some_iff.mp offered
  obtain ⟨noPrice, -, offered⟩ := Option.bind_eq_some_iff.mp offered
  obtain ⟨ourYes, -, offered⟩ := Option.bind_eq_some_iff.mp offered
  cases side <;> exact side_of_offer offered

theorem impliedProbability_bounds {microUsd : Option ℚ} {price : ℚ}
    (quoted : impliedProbability microUsd = some price) : 0 < price ∧ price < 1 := by
  obtain ⟨micro, -, quoted⟩ := Option.bind_eq_some_iff.mp quoted
  dsimp only at quoted
  split at quoted
  · next bounds =>
    obtain rfl := Option.some.inj quoted
    exact bounds
  · cases quoted

/-- A price in range is offered where the probability is one. -/
theorem isSome_offer {side : ContractSide} {prob price : ℚ} (bounds : 0 < price ∧ price < 1) :
    (offer side prob price).isSome ↔ 0 ≤ prob ∧ prob ≤ 1 := by
  unfold offer expectedValuePerDollar
  rw [Option.isSome_map, if_neg (by simp [bounds.1, bounds.2])]
  split
  · next outside =>
    simp only [Option.isSome_none, Bool.false_eq_true, false_iff]
    exact not_and_or.mpr outside
  · next inside =>
    simp only [Option.isSome_some, true_iff]
    exact (not_or.mp inside).imp not_not.mp not_not.mp

/-- Both sides are offered or none. -/
theorem offers (input : EdgeInput) : (∃ yes no, input.offer .yes = some yes ∧
    input.offer .no = some no) ∨ input.offer .yes = none ∧ input.offer .no = none := by
  unfold EdgeInput.offer
  rcases isYes : impliedProbability input.yesPriceMicro with _ | yesPrice
  · exact Or.inr ⟨rfl, rfl⟩
  rcases isNo : impliedProbability input.noPriceMicro with _ | noPrice
  · exact Or.inr ⟨rfl, rfl⟩
  rcases input.ourProbYes with _ | ourYes
  · exact Or.inr ⟨rfl, rfl⟩
  have yesOffered := @isSome_offer .yes ourYes _ (impliedProbability_bounds isYes)
  have noOffered := @isSome_offer .no (1 - ourYes) _ (impliedProbability_bounds isNo)
  by_cases inRange : 0 ≤ ourYes ∧ ourYes ≤ 1
  · obtain ⟨yes, yesEq⟩ := Option.isSome_iff_exists.mp (yesOffered.mpr inRange)
    obtain ⟨no, noEq⟩ := Option.isSome_iff_exists.mp
      (noOffered.mpr ⟨by linarith [inRange.2], by linarith [inRange.1]⟩)
    exact Or.inl ⟨yes, no, yesEq, noEq⟩
  · have otherOut : ¬ (0 ≤ 1 - ourYes ∧ 1 - ourYes ≤ 1) := fun bounds =>
      inRange ⟨by linarith [bounds.2], by linarith [bounds.1]⟩
    exact Or.inr ⟨Option.not_isSome_iff_eq_none.mp (yesOffered.not.mpr inRange),
      Option.not_isSome_iff_eq_none.mp (noOffered.not.mpr otherOut)⟩

/-- The side of the larger expected value, which is YES where they are the same. -/
def larger (yes no : SideSuggestion) : SideSuggestion :=
  if no.evPerDollar ≤ yes.evPerDollar then yes else no

theorem judgeEdge_action (yesOffered : input.offer .yes = some yes)
    (noOffered : input.offer .no = some no) : (judgeEdge input).action =
      if meetsThresholds input (larger yes no) then (larger yes no).side.buy else .skip := by
  unfold EdgeInput.offer at yesOffered noOffered
  obtain ⟨yesPrice, isYes, yesOffered⟩ := Option.bind_eq_some_iff.mp yesOffered
  obtain ⟨noPrice, isNo, yesOffered⟩ := Option.bind_eq_some_iff.mp yesOffered
  obtain ⟨ourYes, isOur, yesOffered⟩ := Option.bind_eq_some_iff.mp yesOffered
  rw [isYes, isNo, isOur] at noOffered
  have first : offer .yes ourYes yesPrice = some yes := yesOffered
  have second : offer .no (1 - ourYes) noPrice = some no := noOffered
  have ranked : ∃ rest, rankedSides ourYes yesPrice noPrice = larger yes no :: rest := by
    unfold rankedSides larger
    rw [first, second]
    by_cases le : no.evPerDollar ≤ yes.evPerDollar <;>
    simp [List.insertionSort, List.orderedInsert, le]
  obtain ⟨rest, isRanked⟩ := ranked
  unfold judgeEdge
  rw [isYes, isNo, isOur]
  dsimp only
  rw [isRanked]
  dsimp only
  split <;> rfl

/-- Where nothing is offered nothing is backed. -/
theorem judgeEdge_skip (yesOffered : input.offer .yes = none)
    (noOffered : input.offer .no = none) : (judgeEdge input).action = .skip := by
  unfold EdgeInput.offer at yesOffered noOffered
  unfold judgeEdge
  rcases isYes : impliedProbability input.yesPriceMicro with _ | yesPrice
  · rfl
  rcases isNo : impliedProbability input.noPriceMicro with _ | noPrice
  · rfl
  rcases isOur : input.ourProbYes with _ | ourYes
  · rfl
  rw [isYes, isNo, isOur] at yesOffered noOffered
  have first : offer .yes ourYes yesPrice = none := yesOffered
  have second : offer .no (1 - ourYes) noPrice = none := noOffered
  dsimp only
  unfold rankedSides
  rw [first, second]
  rfl

end Verdict

/-! ### What is backed -/

/-- The side that the verdict is about, among the two that are offered. -/
structure Picks (input : EdgeInput) (offers : ContractSide → SideSuggestion)
    (best : ContractSide) : Prop where
  largest : ∀ side, (offers side).evPerDollar ≤ (offers best).evPerDollar
  strict : best = .no → (offers .yes).evPerDollar < (offers .no).evPerDollar
  action : (judgeEdge input).action =
    if meetsThresholds input (offers best) then best.buy else .skip

section Backed

variable {input : EdgeInput} {offers : ContractSide → SideSuggestion} {best : ContractSide}

theorem exists_picks (offered : ∀ side, input.offer side = some (offers side)) :
    ∃ best, Picks input offers best := by
  have isAction := judgeEdge_action (offered .yes) (offered .no)
  unfold larger at isAction
  split at isAction
  · next le =>
    refine ⟨.yes, fun side => ?_, nofun, ?_⟩
    · cases side with
      | yes => exact le_rfl
      | no => exact le
    · rw [isAction, side_of_inputOffer (offered .yes)]
  · next lt =>
    refine ⟨.no, fun side => ?_, fun _ => not_le.mp lt, ?_⟩
    · cases side with
      | yes => exact (not_le.mp lt).le
      | no => exact le_rfl
    · rw [isAction, side_of_inputOffer (offered .no)]

theorem qualifies_iff (offered : ∀ side, input.offer side = some (offers side))
    {side : ContractSide} {suggestion : SideSuggestion} : Qualifies input side suggestion ↔
      suggestion = offers side ∧ meetsThresholds input (offers side) := by
  unfold Qualifies meetsThresholds
  rw [offered side, decide_eq_true_eq]
  constructor
  · rintro ⟨same, meets⟩
    obtain rfl := Option.some.inj same
    exact ⟨rfl, meets⟩
  · rintro ⟨rfl, meets⟩
    exact ⟨rfl, meets⟩

theorem eq_or_eq_other (side other : ContractSide) : other = side ∨ other = side.other := by
  cases side <;> cases other <;> decide

/-- The larger side is hidden by nothing, and hides the other only by an edge that is too small. -/
theorem meetsThresholds_of_unhidden (offered : ∀ side, input.offer side = some (offers side))
    (picks : Picks input offers best) (unhidden : Unhidden input) {side : ContractSide}
    (meets : meetsThresholds input (offers side)) : meetsThresholds input (offers best) := by
  rcases eq_or_eq_other side best with rfl | rfl
  · exact meets
  have least := picks.largest side
  obtain ⟨ev, -, volume⟩ := of_decide_eq_true meets
  refine decide_eq_true ⟨ev.trans least, not_lt.mp fun small => ?_, volume⟩
  rcases unhidden side _ _ ((qualifies_iff offered).mpr ⟨rfl, meets⟩) (offered _) small with
    less | ⟨rfl, same⟩
  · exact less.not_ge least
  · exact (picks.strict rfl).ne' same

theorem unhidden_of_complete (offered : ∀ side, input.offer side = some (offers side))
    (picks : Picks input offers best)
    (complete : ∀ side suggestion, Qualifies input side suggestion →
      (judgeEdge input).action ≠ .skip) : Unhidden input := by
  intro side suggestion other qualifies otherOffered small
  have backed := complete side suggestion qualifies
  obtain ⟨rfl, -⟩ := (qualifies_iff offered).mp qualifies
  rw [offered] at otherOffered
  obtain rfl := Option.some.inj otherOffered
  rw [picks.action] at backed
  split at backed
  · next meets =>
    rcases eq_or_eq_other side best with rfl | rfl
    · rcases (picks.largest best.other).lt_or_eq with less | same
      · exact Or.inl less
      · cases best with
        | yes => exact Or.inr ⟨rfl, same⟩
        | no => exact Or.inl (picks.strict rfl)
    · exact absurd (of_decide_eq_true meets).2.1 small.not_ge
  · exact absurd rfl backed

theorem sound_of_picks (offered : ∀ side, input.offer side = some (offers side))
    (picks : Picks input offers best) {side : ContractSide}
    (backed : (judgeEdge input).action = side.buy) : ∃ suggestion,
      Qualifies input side suggestion ∧ ∀ other otherSuggestion,
        Qualifies input other otherSuggestion →
          otherSuggestion.evPerDollar ≤ suggestion.evPerDollar := by
  rw [picks.action] at backed
  split at backed
  · next meets =>
    obtain rfl := buy_injective backed
    refine ⟨_, (qualifies_iff offered).mpr ⟨rfl, meets⟩, fun other suggestion qualifies => ?_⟩
    rw [((qualifies_iff offered).mp qualifies).1]
    exact picks.largest other
  · exact absurd backed.symm (buy_ne_skip side)

theorem judgesWell_iff_of_offered (offered : ∀ side, input.offer side = some (offers side)) :
    JudgesWell input ↔ Unhidden input := by
  obtain ⟨best, picks⟩ := exists_picks offered
  refine ⟨fun judges => unhidden_of_complete offered picks judges.complete, fun unhidden =>
    ⟨fun side => sound_of_picks offered picks, fun side suggestion qualifies => ?_⟩⟩
  have meets := ((qualifies_iff offered).mp qualifies).2
  rw [picks.action, if_pos (meetsThresholds_of_unhidden offered picks unhidden meets)]
  exact buy_ne_skip best

end Backed

/-- The verdict is sound, and it is complete just where no side that qualifies stands behind one
whose edge is too small. -/
theorem judgesWell_iff {input : EdgeInput} : JudgesWell input ↔ Unhidden input := by
  rcases offers input with ⟨yes, no, yesOffered, noOffered⟩ | ⟨yesOut, noOut⟩
  · refine @judgesWell_iff_of_offered input
      (fun side => match side with | .yes => yes | .no => no) fun side => ?_
    cases side with
    | yes => exact yesOffered
    | no => exact noOffered
  · have nothing (side : ContractSide) : input.offer side = none := by
      cases side with
      | yes => exact yesOut
      | no => exact noOut
    have unqualified {side : ContractSide} {suggestion : SideSuggestion} :
        ¬ Qualifies input side suggestion := by
      intro qualifies
      rw [Qualifies, nothing] at qualifies
      cases qualifies.1
    refine ⟨fun _ _ _ _ qualifies => absurd qualifies unqualified,
      fun _ => ⟨fun side backed => ?_, fun _ _ qualifies => absurd qualifies unqualified⟩⟩
    rw [judgeEdge_skip yesOut noOut] at backed
    exact absurd backed.symm (buy_ne_skip side)

/-- YES at five cents, NO at eighty, and a model that gives YES ten per cent. -/
def cheapYes : EdgeInput where
  yesPriceMicro := some 50000
  noPriceMicro := some 800000
  ourProbYes := some (10 / 100)
  volumeUsd := some 10000
  days := some 30

/-- NO is worth backing at ten points of edge, and is hidden by the five points of YES. -/
theorem not_judgesWell_cheapYes : ¬ JudgesWell cheapYes := by
  intro judges
  have skips : (judgeEdge cheapYes).action = .skip := by decide +kernel
  refine judges.complete .no ⟨.no, 8 / 10, 8 / 10, 9 / 10, 10, 1 / 8⟩ ?_ skips
  refine ⟨?_, ?_, ?_, ?_⟩ <;> decide +kernel

end GdslExchange.JupiterPrediction
