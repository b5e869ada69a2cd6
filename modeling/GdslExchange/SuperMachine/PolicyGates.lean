/-
This file settles which gates a BUY of the meta-policy has passed. The threshold and the order book
bind whatever the models say. The timeframes are compared for the direction of the ensemble, which
need not be that of the blend that buys; and a BUY that the Kelly criterion gives no size is
returned without having been shown to the risk gate.
-/

import GdslExchange.Signals.Ensemble
import GdslExchange.SuperMachine.Tick

namespace GdslExchange.SuperMachine

open Async.Program
open Orders (RiskVerdict)
open Signals (Direction)

/-! ### What the models say -/

def ensembleDirection {Number : Type} [Field Number] [LinearOrder Number] (pUp : Number) :
    Direction :=
  if pUp > (60 : ℕ) / (100 : ℕ) then .up else if pUp < (40 : ℕ) / (100 : ℕ) then .down
  else .neutral

/-- `softmax`, with the exponential of the runtime. -/
def softmax (exp : ℚ → ℚ) (vals : List ℚ) : List ℚ :=
  let max := vals.foldl max (vals.headD 0)
  let exps := vals.map fun value => exp (value - max)
  let sum := exps.sum
  exps.map (· / sum)

/-- The probability of a BUY, the action of index 1. -/
def rlBuyProb (exp : ℚ → ℚ) (qValues : List ℚ) : ℚ := (softmax exp qValues)[1]?.getD 0

/-- `mtfAligned`, with the direction of the long ensemble where that can be computed. -/
def mtfAligned (development : Bool) (shortDir : Direction) (long : Option Direction) : Bool :=
  if development then true
  else match long with
  | none => true
  | some long =>
    if shortDir = .up ∧ long = .down then false
    else if shortDir = .down ∧ long = .up then false
    else true

/-- All that `decide` is told: the ensembles of one minute and of one hour, the Q-values, the
imbalance of the order book, the regime, the closed trades, and what the risk gate runs in. -/
structure PolicyInputs where
  development : Bool
  bayesPUp : ℚ
  longPUp : Option ℚ
  qValues : List ℚ
  obi : Option ℚ
  regime : Regime
  pnls : Except String (List ℚ)
  gate : GateRun

namespace PolicyInputs

variable (exp : ℚ → ℚ) (inputs : PolicyInputs)

def reading : MarketReading :=
  ⟨inputs.bayesPUp, rlBuyProb exp inputs.qValues, inputs.obi, inputs.regime⟩

def bayesDirection : Direction := ensembleDirection inputs.bayesPUp

def longDirection : Option Direction := inputs.longPUp.map ensembleDirection

/-- What the operations of `decide` are answered with. -/
def fates (rest : (op : Op) → Fate op) : (op : Op) → Fate op
  | .readMarket _ => .ok (inputs.reading exp)
  | .mtfAligned _ => SuperMachine.mtfAligned inputs.development inputs.bayesDirection
      inputs.longDirection
  | .findClosedPnls _ => inputs.pnls
  | .checkRisk _ _ => inputs.gate
  | op => rest op

end PolicyInputs

/-! ### The decision to buy -/

section Buy

variable {exp : ℚ → ℚ} {inputs : PolicyInputs} {rest : (op : Op) → Fate op} {machine : Machine}
  {symbol userId : String} {equityUsdt : ℚ}

theorem exec_multiTimeframe (action : MetaAction) :
    (multiTimeframe symbol action).exec (inputs.fates exp rest) machine =
      (machine, .ok (if action = .buy ∧ ¬ mtfAligned inputs.development inputs.bayesDirection
        inputs.longDirection then .hold else action)) := by
  cases action with
  | buy =>
    have asked : (await (.mtfAligned symbol)).exec (inputs.fates exp rest) machine =
        (machine, .ok (mtfAligned inputs.development inputs.bayesDirection
          inputs.longDirection)) := exec_perform _ _
    unfold multiTimeframe
    rw [exec_bind_ok asked]
    cases mtfAligned inputs.development inputs.bayesDirection inputs.longDirection <;> rfl
  | sell => rfl
  | hold => rfl

theorem exec_sizeOrder (pUp : ℚ) :
    (sizeOrder symbol pUp equityUsdt .buy).exec (inputs.fates exp rest) machine =
      (machine, inputs.pnls.map fun pnls => computeOrderSize pUp equityUsdt pnls) := by
  have asked : (await (.findClosedPnls symbol)).exec (inputs.fates exp rest) machine =
      (machine, inputs.pnls) := exec_perform _ _
  unfold sizeOrder
  rw [exec_bind, asked]
  cases inputs.pnls <;> rfl

/-- What the risk gate says about a BUY, which is asked about a positive size only. -/
def blockedBy (verdict : Except String RiskVerdict) (size : ℚ) : Except String (Option String) :=
  if size > 0 then verdict.map fun
    | .allowed => none
    | .denied reason => some reason
  else .ok none

theorem exec_askRiskGate (size : ℚ) :
    (askRiskGate userId .buy size).exec (inputs.fates exp rest) machine =
      (machine, blockedBy (inputs.gate.verdict userId size) size) := by
  have asked : (await (.checkRisk userId size)).exec (inputs.fates exp rest) machine =
      (machine, inputs.gate.verdict userId size) := exec_perform _ _
  unfold askRiskGate blockedBy
  by_cases sized : size > 0
  · rw [if_pos ⟨rfl, sized⟩, if_pos sized, exec_bind, asked]
    rcases inputs.gate.verdict userId size with failure | _ | reason <;> rfl
  · rw [if_neg fun both => sized both.2, if_neg sized]
    rfl

theorem blockedBy_eq_none_iff {verdict : Except String RiskVerdict} {size : ℚ} :
    blockedBy verdict size = .ok none ↔ (0 < size → verdict = .ok .allowed) := by
  unfold blockedBy
  split
  · next sized =>
    rcases verdict with failure | _ | reason
    · exact iff_of_false nofun fun allowed => nomatch allowed sized
    · exact iff_of_true rfl fun _ => rfl
    · exact iff_of_false nofun fun allowed => nomatch allowed sized
  · next unsized => exact iff_of_true rfl fun sized => absurd sized unsized

theorem exec_logged (action : MetaAction) (decision : MetaDecision) :
    ((do
      recover (await (.createSignal symbol action)) fun _ => pure ()
      pure decision : Call MetaDecision).exec (inputs.fates exp rest) machine).2 =
        .ok decision := by
  have asked : (await (.createSignal symbol action)).exec (inputs.fates exp rest) machine =
      (machine, rest (.createSignal symbol action)) := exec_perform _ _
  rw [exec_bind, exec_recover, asked]
  cases rest (.createSignal symbol action) <;> rfl

/-- A BUY that is returned is a raw BUY that is aligned, of the Kelly size, and the risk gate has
allowed that size if it is one. -/
theorem returned_buy_iff {decision : MetaDecision} :
    ((decide symbol userId equityUsdt).exec (inputs.fates exp rest) machine).2 = .ok decision ∧
        decision.action = .buy ↔
      (inputs.reading exp).rawAction = .buy ∧
        mtfAligned inputs.development inputs.bayesDirection inputs.longDirection ∧
        ∃ pnls, inputs.pnls = .ok pnls ∧
          (0 < decision.orderSizeUsdt →
            inputs.gate.verdict userId decision.orderSizeUsdt = .ok .allowed) ∧
          decision = ⟨.buy, (inputs.reading exp).pUp,
            computeOrderSize (inputs.reading exp).pUp equityUsdt pnls, none⟩ := by
  have read : (await (.readMarket symbol)).exec (inputs.fates exp rest) machine =
      (machine, .ok (inputs.reading exp)) := exec_perform _ _
  unfold decide
  rw [exec_bind_ok read, exec_bind_ok (exec_multiTimeframe _)]
  by_cases goes : (inputs.reading exp).rawAction = .buy ∧
      mtfAligned inputs.development inputs.bayesDirection inputs.longDirection
  · obtain ⟨isBuy, aligned⟩ := goes
    rw [if_neg fun both => both.2 aligned, isBuy, exec_bind, exec_sizeOrder]
    rcases inputs.pnls with failure | pnls
    · refine iff_of_false (fun returned => nomatch returned.1) ?_
      rintro ⟨-, -, pnls, found, -⟩
      cases found
    dsimp only [Except.map]
    rw [exec_bind, exec_askRiskGate]
    rcases gated : blockedBy _ _ with failure | _ | reason
    · refine iff_of_false (fun returned => nomatch returned.1) ?_
      rintro ⟨-, -, other, found, allowed, rfl⟩
      obtain rfl := Except.ok.inj found
      cases gated.symm.trans (blockedBy_eq_none_iff.mpr allowed)
    · dsimp only
      rw [exec_logged]
      constructor
      · rintro ⟨returned, -⟩
        obtain rfl := Except.ok.inj returned
        exact ⟨rfl, aligned, pnls, rfl, blockedBy_eq_none_iff.mp gated, rfl⟩
      · rintro ⟨-, -, other, found, -, rfl⟩
        obtain rfl := Except.ok.inj found
        exact ⟨rfl, rfl⟩
    · dsimp only
      rw [exec_logged]
      refine iff_of_false ?_ ?_
      · rintro ⟨returned, isBuy⟩
        obtain rfl := Except.ok.inj returned
        cases isBuy
      · rintro ⟨-, -, other, found, allowed, rfl⟩
        obtain rfl := Except.ok.inj found
        cases gated.symm.trans (blockedBy_eq_none_iff.mpr allowed)
  · refine iff_of_false ?_ fun bought => goes ⟨bought.1, bought.2.1⟩
    rintro ⟨returned, isBuy⟩
    generalize isAction : (if (inputs.reading exp).rawAction = .buy ∧
      ¬ mtfAligned inputs.development inputs.bayesDirection inputs.longDirection then .hold
        else (inputs.reading exp).rawAction) = action at returned
    have notBuy : action ≠ .buy := by
      rintro rfl
      split at isAction
      · cases isAction
      · next both =>
        exact goes ⟨isAction, by_contra fun unaligned => both ⟨isAction, unaligned⟩⟩
    cases action with
    | buy => exact notBuy rfl
    | sell =>
      have returns := (@exec_logged exp inputs rest machine symbol .sell
        ⟨.sell, (inputs.reading exp).pUp, 0, none⟩).symm.trans returned
      obtain rfl := Except.ok.inj returns
      cases isBuy
    | hold =>
      have returns := (@exec_logged exp inputs rest machine symbol .hold
        ⟨.hold, (inputs.reading exp).pUp, 0, none⟩).symm.trans returned
      obtain rfl := Except.ok.inj returns
      cases isBuy

theorem rawAction_eq_buy_iff {reading : MarketReading} : reading.rawAction = .buy ↔
    entryThreshold reading.regime < reading.pUp ∧ ∀ obi ∈ reading.obi, -(55 / 100) ≤ obi := by
  have opposes : reading.obiBlocked = true ↔ ∃ obi ∈ reading.obi, obi < -(55 / 100) := by
    unfold MarketReading.obiBlocked
    rw [Option.any_eq_true]
    simp only [decide_eq_true_eq, Option.mem_def]
  have unopposed : ¬ reading.obiBlocked = true ↔ ∀ obi ∈ reading.obi, -(55 / 100) ≤ obi := by
    rw [opposes]
    simp only [not_exists, not_and, not_lt]
  rw [← unopposed]
  unfold MarketReading.rawAction
  split
  · next buys => exact iff_of_true rfl buys
  · next holds =>
    refine iff_of_false ?_ holds
    split <;> nofun

theorem computeOrderSize_pos_iff {pUp : ℚ} {pnls : List ℚ} :
    0 < computeOrderSize pUp equityUsdt pnls ↔
      minOrder ≤ equityUsdt * kellyFraction pUp pnls := by
  unfold computeOrderSize
  dsimp only
  split
  · next small => exact iff_of_false (lt_irrefl 0) (not_le.mpr small)
  · next enough =>
    refine iff_of_true ?_ (not_lt.mp enough)
    have order : (0 : ℚ) < minOrder := by norm_num [minOrder]
    have worth : 0 < equityUsdt * kellyFraction pUp pnls := order.trans_le (not_lt.mp enough)
    have fraction : 0 ≤ kellyFraction pUp pnls := le_max_left _ _
    have funded : 0 < equityUsdt := pos_of_mul_pos_left worth fraction
    exact lt_min worth (by linarith)

end Buy

/-! ### The gates of a BUY -/

section Gates

variable (exp : ℚ → ℚ) (inputs : PolicyInputs) (rest : (op : Op) → Fate op) (machine : Machine)
  (symbol userId : String) (equityUsdt : ℚ)

/-- A BUY that has passed every gate. -/
structure PassedGates (decision : MetaDecision) : Prop where
  likely : entryThreshold inputs.regime < decision.pUp
  unopposed : ∀ obi ∈ inputs.obi, -(55 / 100) ≤ obi
  inTrend : inputs.longDirection ≠ some .down
  sized : 0 < decision.orderSizeUsdt
  allowed : inputs.gate.verdict userId decision.orderSizeUsdt = .ok .allowed

/-- Outside development a BUY that is returned has passed every gate. -/
def GatesBind : Prop :=
  inputs.development = false → ∀ decision,
    ((decide symbol userId equityUsdt).exec (inputs.fates exp rest) machine).2 = .ok decision →
      decision.action = .buy → PassedGates inputs userId decision

/-- A raw BUY that the timeframes do not stop is worth an order, and against a trend that is DOWN
the risk gate stops it. -/
def GatesReached : Prop :=
  inputs.development = false → ∀ pnls, inputs.pnls = .ok pnls →
    (inputs.reading exp).rawAction = .buy →
    mtfAligned false inputs.bayesDirection inputs.longDirection →
      minOrder ≤ equityUsdt * kellyFraction (inputs.reading exp).pUp pnls ∧
      (inputs.longDirection = some .down → inputs.gate.verdict userId
        (computeOrderSize (inputs.reading exp).pUp equityUsdt pnls) ≠ .ok .allowed)

variable {exp inputs rest machine symbol userId equityUsdt}

/-- The gates of a BUY bind just where each of them is reached. -/
theorem gatesBind_iff : GatesBind exp inputs rest machine symbol userId equityUsdt ↔
    GatesReached exp inputs userId equityUsdt := by
  refine imp_congr_right fun production => ?_
  constructor
  · intro bind pnls found isBuy aligned
    rw [← production] at aligned
    by_cases allowed : 0 < computeOrderSize (inputs.reading exp).pUp equityUsdt pnls →
        inputs.gate.verdict userId (computeOrderSize (inputs.reading exp).pUp equityUsdt pnls) =
          .ok .allowed
    · obtain ⟨returned, action⟩ :=
        (@returned_buy_iff exp inputs rest machine symbol userId equityUsdt _).mpr
          ⟨isBuy, aligned, pnls, found, allowed, rfl⟩
      have passed := bind _ returned action
      exact ⟨computeOrderSize_pos_iff.mp passed.sized, fun down => absurd down passed.inTrend⟩
    · rw [Classical.not_imp] at allowed
      exact ⟨computeOrderSize_pos_iff.mp allowed.1, fun _ => allowed.2⟩
  · intro reached decision returned action
    obtain ⟨isBuy, aligned, pnls, found, allowed, rfl⟩ := returned_buy_iff.mp ⟨returned, action⟩
    obtain ⟨likely, unopposed⟩ := rawAction_eq_buy_iff.mp isBuy
    rw [production] at aligned
    obtain ⟨worth, opposed⟩ := reached pnls found isBuy aligned
    have sized := computeOrderSize_pos_iff.mpr worth
    exact ⟨likely, unopposed, fun down => opposed down (allowed sized), sized, allowed sized⟩

end Gates

/-! ### A BUY against the trend -/

/-- The ensemble of a minute leans up and is NEUTRAL, the book is all bids, and the ensemble of an
hour is DOWN. -/
def againstTrend : PolicyInputs where
  development := false
  bayesPUp := 55 / 100
  longPUp := some (30 / 100)
  qValues := [0, 0, 0]
  obi := some 1
  regime := .trending
  pnls := .ok []
  gate := ⟨0, Orders.aliceDesk, Orders.Outlook.fate {}⟩

/-- With equal Q-values only the exponential of 0 is asked for. The blend buys for 73 USDT. -/
theorem not_gatesBind : ¬ GatesBind (fun _ => 1) againstTrend (trending 95).fate
    ⟨aliceConfig, 100, []⟩ "BTCUSDT" "alice" 1000 := by
  intro bind
  have returned := (@returned_buy_iff (fun _ => 1) againstTrend (trending 95).fate
    ⟨aliceConfig, 100, []⟩ "BTCUSDT" "alice" 1000 _).mpr
      ⟨by decide +kernel, by decide +kernel, [], rfl, fun _ => by decide +kernel, rfl⟩
  exact (bind rfl _ returned.1 returned.2).inTrend (by decide +kernel)

end GdslExchange.SuperMachine
