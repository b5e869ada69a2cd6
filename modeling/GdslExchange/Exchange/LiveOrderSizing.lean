/-
This file is about the size of a live order: the least of the caps that apply, each rounded down to
cents.

It therefore exceeds none of them and grows with each. The percentage is the exception: none at all
reads as half of the balance.
-/

import GdslExchange.Engine.Routes
import Mathlib.Data.List.Forall2

namespace GdslExchange.Exchange

open Engine (LiveOrderSizeResult SizeCaps capOf capped dollars floorUsdt)
open Numeric

/-! ### The size -/

/-- The input with the fraction and the minimum that the engine leaves at their defaults. -/
structure LiveOrderSizeInput extends Engine.LiveOrderSizeInput where
  maxFreeFraction : Option ℚ
  minOrderUsdt : Option ℚ

def finitePositive (n : Option ℚ) : Option ℚ := n.filter (0 < ·)

namespace LiveOrderSizeInput

variable (input : LiveOrderSizeInput)

def minOrder : ℚ := (finitePositive input.minOrderUsdt).getD Engine.minOrderUsdt

def free : ℚ := if 0 < input.freeUsdt then input.freeUsdt else 0

def pct : ℚ := min 100 (max 10 (if input.tradeSizePct = 0 then 50 else input.tradeSizePct))

/-- A fraction above one counts as none. -/
def givenFraction : Option ℚ := (finitePositive input.maxFreeFraction).filter (· ≤ 1)

def fraction : ℚ := input.givenFraction.getD Engine.maxFreeFraction

def sizeCaps : SizeCaps where
  fromPct := floorUsdt (input.free * (input.pct / 100))
  fromRequested := capOf input.requestedOrderSizeUsdt
  fromRiskRule := capOf input.maxOrderNotional
  fromEnv := capOf input.envMaxOrderUsdt
  fromFreeBuffer := floorUsdt (input.free * input.fraction)

end LiveOrderSizeInput

def computeLiveOrderSize (input : LiveOrderSizeInput) : LiveOrderSizeResult :=
  let caps := input.sizeCaps
  let byPct := (caps.fromPct, [text input.pct ++ "% of free USDT → " ++ dollars caps.fromPct])
  let byRequest := capped byPct "Requested cap" caps.fromRequested
  let byRisk := capped byRequest "Risk maxOrderNotional" caps.fromRiskRule
  let byEnv := capped byRisk "CEX env max" caps.fromEnv
  let sized := capped byEnv
    ("Free-balance buffer (" ++ text (Numeric.round (input.fraction * 100)) ++ "%)")
    (some caps.fromFreeBuffer)
  let order := floorUsdt sized.1
  { orderSizeUsdt := order
    caps
    reasons :=
      if order < input.minOrder then
        sized.2 ++ ["Below minimum " ++ dollars input.minOrder ++ " — not enough free USDT at " ++
          text input.pct ++ "%"]
      else sized.2 }

theorem computeLiveOrderSize_engine (input : Engine.LiveOrderSizeInput) :
    computeLiveOrderSize ⟨input, none, none⟩ = Engine.computeLiveOrderSize input := by
  have percent : text (Numeric.round (Engine.maxFreeFraction * 100)) =
      text (Engine.maxFreeFraction * 100) := by
    decide +kernel
  have whole : text (Numeric.round ((⟨input, none, none⟩ : LiveOrderSizeInput).fraction * 100)) =
      text (Engine.maxFreeFraction * 100) := percent
  unfold computeLiveOrderSize
  rw [whole]
  rfl

/-! ### Caps -/

/-- The caps that apply, before they are rounded down. -/
def LiveOrderSizeInput.presentCaps (input : LiveOrderSizeInput) : List ℚ :=
  [input.free * (input.pct / 100)] ++ (finitePositive input.requestedOrderSizeUsdt).toList ++
    (finitePositive input.maxOrderNotional).toList ++
    (finitePositive input.envMaxOrderUsdt).toList ++ [input.free * input.fraction]

section Floor

variable {amount more : ℚ}

theorem floorUsdt_le (amount : ℚ) : floorUsdt amount ≤ amount := by
  unfold floorUsdt
  rw [div_le_iff₀ (by norm_num)]
  exact Int.floor_le _

theorem floorUsdt_mono (le : amount ≤ more) : floorUsdt amount ≤ floorUsdt more := by
  unfold floorUsdt
  gcongr

theorem floorUsdt_floorUsdt (amount : ℚ) : floorUsdt (floorUsdt amount) = floorUsdt amount := by
  unfold floorUsdt
  rw [div_mul_cancel₀ _ (by norm_num), Int.floor_intCast]

end Floor

section Least

variable {caps : List ℚ} {sized : ℚ × List String}

theorem isLeast_capped (least : IsLeast {cap | cap ∈ caps} sized.1) (label : String)
    (next : Option ℚ) : IsLeast {cap | cap ∈ caps ++ next.toList} (capped sized label next).1 := by
  rcases next with _ | next
  · rw [Option.toList_none, List.append_nil]
    exact least
  · simp only [capped, Option.toList_some]
    split_ifs with lower
    · refine ⟨List.mem_append_right _ (List.mem_singleton_self next), fun other member => ?_⟩
      rcases List.mem_append.mp member with earlier | isNext
      · exact lower.le.trans (least.2 earlier)
      · exact (List.mem_singleton.mp isNext).ge
    · refine ⟨List.mem_append_left _ least.1, fun other member => ?_⟩
      rcases List.mem_append.mp member with earlier | isNext
      · exact least.2 earlier
      · rw [List.mem_singleton.mp isNext]
        exact not_lt.mp lower

theorem toList_capOf (cap : Option ℚ) :
    (capOf cap).toList = (finitePositive cap).toList.map floorUsdt := by
  exact Option.toList_map

theorem isLeast_orderSize (input : LiveOrderSizeInput) :
    IsLeast {cap | cap ∈ input.presentCaps.map floorUsdt}
      (computeLiveOrderSize input).orderSizeUsdt := by
  have byPct : IsLeast {cap | cap ∈ [input.sizeCaps.fromPct]} input.sizeCaps.fromPct :=
    ⟨List.mem_singleton_self _, fun other member => (List.mem_singleton.mp member).ge⟩
  have byPctSized := @isLeast_capped _
    (input.sizeCaps.fromPct,
      [text input.pct ++ "% of free USDT → " ++ dollars input.sizeCaps.fromPct])
    byPct "Requested cap" input.sizeCaps.fromRequested
  have byRisk := isLeast_capped byPctSized "Risk maxOrderNotional" input.sizeCaps.fromRiskRule
  have byEnv := isLeast_capped byRisk "CEX env max" input.sizeCaps.fromEnv
  have sized := isLeast_capped byEnv
    ("Free-balance buffer (" ++ text (Numeric.round (input.fraction * 100)) ++ "%)")
    (some input.sizeCaps.fromFreeBuffer)
  have caps : [input.sizeCaps.fromPct] ++ input.sizeCaps.fromRequested.toList ++
      input.sizeCaps.fromRiskRule.toList ++ input.sizeCaps.fromEnv.toList ++
      (some input.sizeCaps.fromFreeBuffer).toList = input.presentCaps.map floorUsdt := by
    simp only [LiveOrderSizeInput.sizeCaps, LiveOrderSizeInput.presentCaps, toList_capOf,
      List.map_append, List.map_singleton, Option.toList_some]
  rw [caps] at sized
  have rounded : (computeLiveOrderSize input).orderSizeUsdt = floorUsdt _ := rfl
  obtain ⟨cap, _, isSize⟩ := List.mem_map.mp sized.1
  rw [rounded, ← isSize, floorUsdt_floorUsdt, isSize]
  exact sized

end Least

/-! ### Larger caps -/

/-- The inputs that are given in both are not smaller in the second. -/
structure Raised (input larger : LiveOrderSizeInput) : Prop where
  free : input.freeUsdt ≤ larger.freeUsdt
  pct : input.tradeSizePct ≤ larger.tradeSizePct
  requested : Option.Rel (· ≤ ·) (finitePositive input.requestedOrderSizeUsdt)
    (finitePositive larger.requestedOrderSizeUsdt)
  riskRule : Option.Rel (· ≤ ·) (finitePositive input.maxOrderNotional)
    (finitePositive larger.maxOrderNotional)
  env : Option.Rel (· ≤ ·) (finitePositive input.envMaxOrderUsdt)
    (finitePositive larger.envMaxOrderUsdt)
  fraction : Option.Rel (· ≤ ·) input.givenFraction larger.givenFraction

section Larger

variable {input larger : LiveOrderSizeInput}

theorem free_nonneg (input : LiveOrderSizeInput) : 0 ≤ input.free := by
  unfold LiveOrderSizeInput.free
  split_ifs with some
  · exact some.le
  · exact le_rfl

theorem pct_nonneg (input : LiveOrderSizeInput) : 0 ≤ input.pct := by
  exact le_min (by norm_num) (le_max_of_le_left (by norm_num))

theorem fraction_nonneg (input : LiveOrderSizeInput) : 0 ≤ input.fraction := by
  unfold LiveOrderSizeInput.fraction
  rcases isGiven : input.givenFraction with _ | fraction
  · exact (by norm_num [Engine.maxFreeFraction] : (0 : ℚ) ≤ Engine.maxFreeFraction)
  · obtain ⟨isFinite, _⟩ := Option.filter_eq_some_iff.mp isGiven
    exact (of_decide_eq_true (Option.filter_eq_some_iff.mp isFinite).2).le

/-- The percentage grows, from none at all apart. -/
theorem pct_mono (raised : Raised input larger) (given : input.tradeSizePct ≠ 0) :
    input.pct ≤ larger.pct := by
  unfold LiveOrderSizeInput.pct
  rw [if_neg given]
  refine min_le_min_left _ ?_
  have le := raised.pct
  split_ifs with none
  · rw [none] at le
    exact max_le (le_max_left _ _) (le.trans (le_max_of_le_left (by norm_num)))
  · exact max_le_max_left _ le

theorem forall₂_toList {first second : Option ℚ} (le : Option.Rel (· ≤ ·) first second) :
    List.Forall₂ (· ≤ ·) first.toList second.toList := by
  cases le with
  | none => exact List.Forall₂.nil
  | some le => exact List.Forall₂.cons le List.Forall₂.nil

theorem exists_le_of_forall₂ {first second : List ℚ} (le : List.Forall₂ (· ≤ ·) first second)
    {value : ℚ} (member : value ∈ second) : ∃ lower ∈ first, lower ≤ value := by
  induction le with
  | nil => cases member
  | cons head _ inductionHypothesis =>
    rcases List.mem_cons.mp member with rfl | later
    · exact ⟨_, List.mem_cons_self, head⟩
    · obtain ⟨lower, isLower, below⟩ := inductionHypothesis later
      exact ⟨lower, List.mem_cons_of_mem _ isLower, below⟩

theorem free_mono (raised : Raised input larger) : input.free ≤ larger.free := by
  unfold LiveOrderSizeInput.free
  have le := raised.free
  split_ifs with some more more
  · exact le
  · exact absurd (some.trans_le le) more
  · exact more.le
  · exact le_rfl

theorem getD_mono {first second : Option ℚ} (le : Option.Rel (· ≤ ·) first second)
    (default : ℚ) : first.getD default ≤ second.getD default := by
  cases le with
  | none => exact le_rfl
  | some le => exact le

theorem fraction_mono (raised : Raised input larger) : input.fraction ≤ larger.fraction :=
  getD_mono raised.fraction _

theorem presentCaps_mono (raised : Raised input larger) (given : input.tradeSizePct ≠ 0) :
    List.Forall₂ (· ≤ ·) input.presentCaps larger.presentCaps := by
  have byPct : input.free * (input.pct / 100) ≤ larger.free * (larger.pct / 100) := by
    refine mul_le_mul (free_mono raised) ?_ ?_ (free_nonneg larger)
    · exact div_le_div_of_nonneg_right (pct_mono raised given) (by norm_num)
    · exact div_nonneg (pct_nonneg input) (by norm_num)
  have buffer : input.free * input.fraction ≤ larger.free * larger.fraction :=
    mul_le_mul (free_mono raised) (fraction_mono raised) (fraction_nonneg input)
      (free_nonneg larger)
  refine List.rel_append (List.rel_append (List.rel_append (List.rel_append ?_ ?_) ?_) ?_) ?_
  · exact List.Forall₂.cons byPct List.Forall₂.nil
  · exact forall₂_toList raised.requested
  · exact forall₂_toList raised.riskRule
  · exact forall₂_toList raised.env
  · exact List.Forall₂.cons buffer List.Forall₂.nil

theorem orderSize_mono (raised : Raised input larger) (given : input.tradeSizePct ≠ 0) :
    (computeLiveOrderSize input).orderSizeUsdt ≤ (computeLiveOrderSize larger).orderSizeUsdt := by
  obtain ⟨cap, isCap, isSize⟩ := List.mem_map.mp (isLeast_orderSize larger).1
  obtain ⟨lower, isLower, le⟩ := exists_le_of_forall₂ (presentCaps_mono raised given) isCap
  calc (computeLiveOrderSize input).orderSizeUsdt
      ≤ floorUsdt lower := (isLeast_orderSize input).2 (List.mem_map_of_mem isLower)
    _ ≤ floorUsdt cap := floorUsdt_mono le
    _ = (computeLiveOrderSize larger).orderSizeUsdt := isSize

/-- The size is the least of the caps that apply, rounded down, exceeds none of them, and grows
with them from any percentage but none at all. -/
theorem orderSize_respectsCaps (input : LiveOrderSizeInput) :
    IsLeast {cap | cap ∈ input.presentCaps.map floorUsdt}
        (computeLiveOrderSize input).orderSizeUsdt ∧
      (∀ cap ∈ input.presentCaps, (computeLiveOrderSize input).orderSizeUsdt ≤ cap) ∧
      ∀ larger, Raised input larger → input.tradeSizePct ≠ 0 →
        (computeLiveOrderSize input).orderSizeUsdt ≤
          (computeLiveOrderSize larger).orderSizeUsdt := by
  refine ⟨isLeast_orderSize input, fun cap isCap => ?_, fun larger raised given =>
    orderSize_mono raised given⟩
  exact ((isLeast_orderSize input).2 (List.mem_map_of_mem isCap)).trans (floorUsdt_le cap)

end Larger

/-- A balance of 100, of which so many percent are risked. -/
def hundred (pct : ℚ) : LiveOrderSizeInput where
  freeUsdt := 100
  tradeSizePct := pct
  requestedOrderSizeUsdt := none
  maxOrderNotional := none
  envMaxOrderUsdt := none
  maxFreeFraction := none
  minOrderUsdt := none

theorem raised_hundred {pct more : ℚ} (le : pct ≤ more) : Raised (hundred pct) (hundred more) where
  free := le_rfl
  pct := le
  requested := .none
  riskRule := .none
  env := .none
  fraction := .none

theorem orderSize_twentyToThirty : (computeLiveOrderSize (hundred 20)).orderSizeUsdt ≤
    (computeLiveOrderSize (hundred 30)).orderSizeUsdt :=
  (orderSize_respectsCaps (hundred 20)).2.2 (hundred 30) (raised_hundred (by norm_num))
    (by decide +kernel)

/-- At no percent half of the balance is risked, at five percent a tenth. -/
theorem not_orderSize_mono : ¬ ∀ input larger, Raised input larger →
    (computeLiveOrderSize input).orderSizeUsdt ≤ (computeLiveOrderSize larger).orderSizeUsdt := by
  intro grows
  have smaller := grows (hundred 0) (hundred 5) (raised_hundred (by norm_num))
  revert smaller
  decide +kernel

end GdslExchange.Exchange
