/-
This file settles that the risk analyst ranks its tokens by a consistent order.

Ties within a band usually make a comparison intransitive. This one is the order of the scores with
the majors raised by the band: a major passes the tokens it nearly ties with, and a token that is
better by the whole band stays before it.
-/

import GdslExchange.SuperMachine.RiskAgent
import Mathlib.Data.Prod.Lex

namespace GdslExchange.SuperMachine

/-! ### The comparison -/

/-- What `compareTradeRank` reads of a candidate. -/
structure TradeRank where
  totalScore : ℚ
  isMajor : Bool

def ScoredPick.tradeRank (scored : ScoredPick) : TradeRank := ⟨scored.totalScore, scored.isMajor⟩

/-- Higher composite score wins. A major only wins when the scores are a near tie. -/
def compareTradeRank (a b : TradeRank) (tieBand : ℚ := 4 / 100) : ℚ :=
  if |a.totalScore - b.totalScore| ≥ tieBand then b.totalScore - a.totalScore
  else if a.isMajor ≠ b.isMajor then (if a.isMajor then -1 else 1)
  else b.totalScore - a.totalScore

/-! ### The order -/

/-- The score of a candidate, with majors raised by the tie band. -/
def TradeRank.raised (tieBand : ℚ) (candidate : TradeRank) : ℚ :=
  candidate.totalScore + if candidate.isMajor then tieBand else 0

/-- The place of a candidate: higher raised scores first, and of equal ones non-majors first. -/
def TradeRank.place (tieBand : ℚ) (candidate : TradeRank) : ℚᵒᵈ ×ₗ Bool :=
  toLex (OrderDual.toDual (candidate.raised tieBand), candidate.isMajor)

/-- Candidates are compared by their places. -/
def ComparesByPlace (tieBand : ℚ) : Prop :=
  ∀ a b : TradeRank, compareTradeRank a b tieBand < 0 ↔ a.place tieBand < b.place tieBand

/-- The ranking is the same in any order of the tokens, up to candidates of one score and class. -/
def RanksRegardless : Prop :=
  ∀ (settings : SuperMachineSettings) (openBases : List String) (signals : List TradeSignal)
    (suggestions others : List TradeSuggestion), suggestions.Perm others →
    (rankTokens suggestions settings openBases signals).Perm
        (rankTokens others settings openBases signals) ∧
      (rankTokens suggestions settings openBases signals).map ScoredPick.tradeRank =
        (rankTokens others settings openBases signals).map ScoredPick.tradeRank

/-- The comparison is a consistent order. Without a band it is that of the scores alone. -/
structure RanksConsistently (tieBand : ℚ) : Prop where
  antisymmetric : ∀ a b, compareTradeRank b a tieBand = -compareTradeRank a b tieBand
  transitive : ∀ a b c, compareTradeRank a b tieBand ≤ 0 → compareTradeRank b c tieBand ≤ 0 →
    compareTradeRank a c tieBand ≤ 0
  byPlace : 0 < tieBand → ComparesByPlace tieBand
  byScore : tieBand = 0 → ∀ a b, compareTradeRank a b tieBand < 0 ↔ b.totalScore < a.totalScore
  regardless : RanksRegardless

section Order

variable {tieBand : ℚ} {a b c : TradeRank}

theorem place_lt_iff : a.place tieBand < b.place tieBand ↔
    b.raised tieBand < a.raised tieBand ∨
      (a.raised tieBand = b.raised tieBand ∧ a.isMajor = false ∧ b.isMajor = true) := by
  unfold TradeRank.place
  rw [Prod.Lex.toLex_lt_toLex]
  exact or_congr Iff.rfl (and_congr OrderDual.toDual_inj Bool.lt_iff)

/-- A candidate's place tells its score and its class. -/
theorem place_injective : Function.Injective (TradeRank.place tieBand) := by
  rintro ⟨score, major⟩ ⟨otherScore, otherMajor⟩ same
  have pair := toLex_inj.mp same
  obtain ⟨sameRaised, rfl⟩ := Prod.mk.inj pair
  have sameScore := add_right_cancel (OrderDual.toDual_inj.mp sameRaised)
  exact congrArg (TradeRank.mk · major) sameScore

theorem compareTradeRank_swap :
    compareTradeRank b a tieBand = -compareTradeRank a b tieBand := by
  unfold compareTradeRank
  rw [abs_sub_comm b.totalScore]
  split
  · ring
  · cases a.isMajor <;> cases b.isMajor <;> simp

/-- Within the band the class decides, and the raised scores are ordered as the classes are. -/
theorem compareTradeRank_lt_iff (positive : 0 < tieBand) :
    compareTradeRank a b tieBand < 0 ↔ a.place tieBand < b.place tieBand := by
  rw [place_lt_iff]
  unfold compareTradeRank TradeRank.raised
  split
  · next far =>
    rcases le_abs.mp far with above | below
    · cases a.isMajor <;> cases b.isMajor <;> simp <;> grind
    · cases a.isMajor <;> cases b.isMajor <;> simp <;> grind
  · next near =>
    obtain ⟨low, high⟩ := abs_lt.mp (not_le.mp near)
    cases a.isMajor <;> cases b.isMajor <;> simp <;> grind

theorem compareTradeRank_le_iff (positive : 0 < tieBand) :
    compareTradeRank a b tieBand ≤ 0 ↔ a.place tieBand ≤ b.place tieBand := by
  rw [← not_lt, ← not_lt, ← compareTradeRank_lt_iff positive, @compareTradeRank_swap _ a b,
    neg_lt_zero]

/-- Without a band the class never decides. -/
theorem compareTradeRank_zero : compareTradeRank a b 0 = b.totalScore - a.totalScore :=
  if_pos (abs_nonneg _)

theorem compareTradeRank_trans (nonneg : 0 ≤ tieBand) (first : compareTradeRank a b tieBand ≤ 0)
    (second : compareTradeRank b c tieBand ≤ 0) : compareTradeRank a c tieBand ≤ 0 := by
  rcases nonneg.eq_or_lt with rfl | positive
  · rw [compareTradeRank_zero] at *
    linarith
  · rw [compareTradeRank_le_iff positive] at *
    exact first.trans second

end Order

/-! ### The ranking -/

theorem ranksBefore_iff {a b : ScoredPick} :
    RanksBefore a b ↔ a.tradeRank.place (4 / 100) ≤ b.tradeRank.place (4 / 100) := by
  rw [← compareTradeRank_le_iff (by norm_num)]
  unfold RanksBefore compareTradeRank ScoredPick.tradeRank
  split
  · exact sub_nonpos.symm
  · cases a.isMajor <;> cases b.isMajor <;> simp

instance : Std.Total RanksBefore :=
  ⟨fun a b => (le_total (a.tradeRank.place (4 / 100)) (b.tradeRank.place (4 / 100))).imp
    ranksBefore_iff.mpr ranksBefore_iff.mpr⟩

instance : IsTrans ScoredPick RanksBefore :=
  ⟨fun _ _ _ first second => ranksBefore_iff.mpr
    ((ranksBefore_iff.mp first).trans (ranksBefore_iff.mp second))⟩

section Tokens

variable {settings : SuperMachineSettings} {openBases : List String} {signals : List TradeSignal}
  {suggestions others : List TradeSuggestion}

theorem rankTokens_perm (perm : suggestions.Perm others) :
    (rankTokens suggestions settings openBases signals).Perm
      (rankTokens others settings openBases signals) := by
  have scored := (perm.filter (qualifies settings openBases)).map (scorePick signals)
  exact (List.perm_insertionSort _ _).trans (scored.trans (List.perm_insertionSort _ _).symm)

/-- The places of a ranking stand in order. -/
theorem pairwise_place : ((rankTokens suggestions settings openBases signals).map
    fun scored => scored.tradeRank.place (4 / 100)).Pairwise (· ≤ ·) :=
  List.pairwise_map.mpr
    ((List.pairwise_insertionSort RanksBefore _).imp fun before => ranksBefore_iff.mp before)

/-- Sorted places are the same in any order of the tokens, and a place tells score and class. -/
theorem map_tradeRank_rankTokens (perm : suggestions.Perm others) :
    (rankTokens suggestions settings openBases signals).map ScoredPick.tradeRank =
      (rankTokens others settings openBases signals).map ScoredPick.tradeRank := by
  have samePlaces : (rankTokens suggestions settings openBases signals).map
        (fun scored => scored.tradeRank.place (4 / 100)) =
      (rankTokens others settings openBases signals).map
        fun scored => scored.tradeRank.place (4 / 100) :=
    ((rankTokens_perm perm).map _).eq_of_pairwise (fun _ _ _ _ => le_antisymm)
      pairwise_place pairwise_place
  refine List.map_injective_iff.mpr (@place_injective (4 / 100)) ?_
  rw [List.map_map, List.map_map]
  exact samePlaces

end Tokens

theorem ranksRegardless : RanksRegardless := fun _ _ _ _ _ perm =>
  ⟨rankTokens_perm perm, map_tradeRank_rankTokens perm⟩

/-- The ranking is by a consistent order, for every band. -/
theorem compareTradeRank_consistent {tieBand : ℚ} (nonneg : 0 ≤ tieBand) :
    RanksConsistently tieBand where
  antisymmetric _ _ := compareTradeRank_swap
  transitive _ _ _ := compareTradeRank_trans nonneg
  byPlace positive _ _ := compareTradeRank_lt_iff positive
  byScore none a b := by
    rw [none, compareTradeRank_zero, sub_neg]
  regardless := ranksRegardless

theorem compareTradeRank_consistent_default :
    (0 : ℚ) ≤ 4 / 100 ∧ RanksConsistently (4 / 100) :=
  ⟨by norm_num, compareTradeRank_consistent (by norm_num)⟩

/-- Without a band a major ties with a token of its score, which then does not come first. -/
theorem not_comparesByPlace_zero : ¬ ComparesByPlace 0 := by
  intro byPlace
  have before := (byPlace ⟨1, false⟩ ⟨1, true⟩).mpr (by decide +kernel)
  have tied : ¬ compareTradeRank ⟨1, false⟩ ⟨1, true⟩ 0 < 0 := by decide +kernel
  exact tied before

end GdslExchange.SuperMachine
