/-
This file settles how the Kelly size follows the record of closed trades.

The size keeps its bounds and its monotonicity on any record. The payoff ratio does not come from
the trades it is meant for: the meta-policy names a market as the exchange does, without a slash,
and the bots store their trades under the pair with one.
-/

import GdslExchange.Orders.Desk
import GdslExchange.SuperMachine.Policy
import Mathlib.Algebra.Order.BigOperators.Group.List
import Mathlib.Tactic.FieldSimp
import Mathlib.Tactic.Positivity
import Mathlib.Tactic.Ring

namespace GdslExchange.SuperMachine

/-! ### The record of trades -/

/-- `Trade`, the columns that the query reads. -/
structure RecordedTrade where
  userId : String
  pair : String
  status : Orders.TradeStatus
  pnl : Option ℚ
  createdAt : ℕ

/-- The rows that the query asks for. An empty symbol is none. -/
def isClosedOf (userId : String) (symbol : Option String) (trade : RecordedTrade) : Bool :=
  trade.userId = userId ∧ trade.status = .closed ∧ trade.pnl.isSome ∧
    (symbol.filter (· ≠ "")).all (trade.pair = ·)

/-- The profits and losses that `estimateWinLossRatio` reads, of the newest rows. -/
def findClosedPnls (trades : List RecordedTrade) (userId : String) (symbol : Option String)
    (n : ℕ := 100) : List ℚ :=
  (((trades.filter (isClosedOf userId symbol)).mergeSort fun first second =>
    decide (second.createdAt ≤ first.createdAt)).take n).filterMap RecordedTrade.pnl

/-- What `decide` is passed for a base asset: `BTCUSDT`. -/
def binanceSymbol (base : String) : String := base ++ "USDT"

/-- What the bots store for it: `BTC/USDT`. -/
def botPair (base : String) : String := base ++ "/USDT"

/-- The rows under the market's name that the query reads. -/
def symbolPnls (trades : List RecordedTrade) (userId base : String) : List ℚ :=
  findClosedPnls trades userId (some (binanceSymbol base))

/-- The size that the meta-policy gives a BUY. -/
def orderSizeFor (trades : List RecordedTrade) (userId base : String) (pUp equity : ℚ) : ℚ :=
  computeOrderSize pUp equity (symbolPnls trades userId base)

/-! ### The property and the condition -/

/-- All that the user's closed trades of a base asset have made, as the bots store them. -/
def botPnls (trades : List RecordedTrade) (userId base : String) : List ℚ :=
  (trades.filter (isClosedOf userId (some (botPair base)))).filterMap RecordedTrade.pnl

/-- There is a win and a loss. -/
def TwoSided (pnls : List ℚ) : Prop := (∃ pnl ∈ pnls, 0 < pnl) ∧ ∃ pnl ∈ pnls, pnl < 0

/-- Enough trades to average, of both kinds. -/
def Tells (pnls : List ℚ) : Prop := minTradesForKelly ≤ pnls.length ∧ TwoSided pnls

def average (amounts : List ℚ) : ℚ := amounts.sum / amounts.length

/-- The average win over the average loss. -/
def payoffRatio (pnls : List ℚ) : ℚ :=
  average (pnls.filter (0 < ·)) / average ((pnls.filter (· < 0)).map abs)

/-- The size is sane, and it is that of the user's own trades of the asset. -/
structure SizesSanely (trades : List RecordedTrade) (userId base : String) (pUp equity : ℚ) : Prop where
  bounds : orderSizeFor trades userId base pUp equity = 0 ∨
    5 / 10 ≤ orderSizeFor trades userId base pUp equity ∧
      orderSizeFor trades userId base pUp equity ≤ 25 / 100 * equity
  unfavourable : pUp * estimateWinLossRatio (symbolPnls trades userId base) ≤ 1 - pUp →
    orderSizeFor trades userId base pUp equity = 0
  monoProbability : ∀ higher, pUp ≤ higher →
    orderSizeFor trades userId base pUp equity ≤ orderSizeFor trades userId base higher equity
  monoRatio : ∀ others otherUser otherBase,
    estimateWinLossRatio (symbolPnls trades userId base) ≤
        estimateWinLossRatio (symbolPnls others otherUser otherBase) →
      orderSizeFor trades userId base pUp equity ≤ orderSizeFor others otherUser otherBase pUp equity
  ownRatio : Tells (botPnls trades userId base) →
    estimateWinLossRatio (symbolPnls trades userId base) = payoffRatio (botPnls trades userId base)

/-- The rows that are read happen to give the ratio of the rows that are meant. -/
def RatioAgrees (read meant : List ℚ) : Prop :=
  (read.length < minTradesForKelly ∧ payoffRatio meant = 15 / 10) ∨
    (minTradesForKelly ≤ read.length ∧ ¬ TwoSided read ∧ payoffRatio meant = 1) ∨
    (Tells read ∧ payoffRatio meant = payoffRatio read)

/-! ### The payoff ratio -/

section Ratio

variable {pnls : List ℚ}

theorem length_filter_eq_zero_iff {keeps : ℚ → Prop} [DecidablePred keeps] :
    (pnls.filter (keeps ·)).length = 0 ↔ ¬ ∃ pnl ∈ pnls, keeps pnl := by
  simp [List.length_eq_zero_iff, List.filter_eq_nil_iff]

theorem average_pos {amounts : List ℚ} (nonempty : amounts ≠ [])
    (positive : ∀ amount ∈ amounts, 0 < amount) : 0 < average amounts := by
  have sum_pos := List.sum_pos amounts positive nonempty
  have length_pos := List.length_pos_iff.mpr nonempty
  unfold average
  positivity

theorem averageWin_pos (won : ∃ pnl ∈ pnls, 0 < pnl) : 0 < average (pnls.filter (0 < ·)) := by
  refine average_pos (fun none => ?_) fun amount member => ?_
  · exact length_filter_eq_zero_iff.mp (List.length_eq_zero_iff.mpr none) won
  · simpa using (List.mem_filter.mp member).2

theorem averageLoss_pos (lost : ∃ pnl ∈ pnls, pnl < 0) :
    0 < average ((pnls.filter (· < 0)).map abs) := by
  refine average_pos (fun none => ?_) fun amount member => ?_
  · have empty := List.map_eq_nil_iff.mp none
    exact length_filter_eq_zero_iff.mp (List.length_eq_zero_iff.mpr empty) lost
  · obtain ⟨pnl, isLoss, rfl⟩ := List.mem_map.mp member
    have negative : pnl < 0 := by simpa using (List.mem_filter.mp isLoss).2
    exact abs_pos.mpr negative.ne

theorem payoffRatio_pos (twoSided : TwoSided pnls) : 0 < payoffRatio pnls :=
  div_pos (averageWin_pos twoSided.1) (averageLoss_pos twoSided.2)

theorem estimateWinLossRatio_of_few (few : pnls.length < minTradesForKelly) :
    estimateWinLossRatio pnls = 15 / 10 := by
  unfold estimateWinLossRatio
  rw [if_pos few]

theorem estimateWinLossRatio_of_oneSided (enough : minTradesForKelly ≤ pnls.length)
    (oneSided : ¬ TwoSided pnls) : estimateWinLossRatio pnls = 1 := by
  unfold estimateWinLossRatio
  rw [if_neg enough.not_gt]
  refine if_pos ?_
  rw [List.length_map, length_filter_eq_zero_iff, length_filter_eq_zero_iff]
  exact not_and_or.mp oneSided

/-- With enough trades the zero test of the average loss never fires. -/
theorem estimateWinLossRatio_of_tells (tells : Tells pnls) :
    estimateWinLossRatio pnls = payoffRatio pnls := by
  unfold estimateWinLossRatio
  rw [if_neg tells.1.not_gt]
  rw [if_neg]
  · exact if_neg (averageLoss_pos tells.2.2).ne'
  · rw [List.length_map, length_filter_eq_zero_iff, length_filter_eq_zero_iff, ← not_and_or,
      not_not]
    exact tells.2

theorem estimateWinLossRatio_pos : 0 < estimateWinLossRatio pnls := by
  rcases lt_or_ge pnls.length minTradesForKelly with few | enough
  · rw [estimateWinLossRatio_of_few few]
    norm_num
  by_cases twoSided : TwoSided pnls
  · rw [estimateWinLossRatio_of_tells ⟨enough, twoSided⟩]
    exact payoffRatio_pos twoSided
  · rw [estimateWinLossRatio_of_oneSided enough twoSided]
    exact one_pos

/-- When the ratio of the rows that are read is that of the rows that are meant. -/
theorem estimateWinLossRatio_eq_iff {meant : List ℚ} :
    estimateWinLossRatio pnls = payoffRatio meant ↔ RatioAgrees pnls meant := by
  unfold RatioAgrees
  rcases lt_or_ge pnls.length minTradesForKelly with few | enough
  · have silent : ¬ Tells pnls := fun tells => few.not_ge tells.1
    rw [estimateWinLossRatio_of_few few]
    simp only [few, few.not_ge, silent, true_and, false_and, or_false]
    exact eq_comm
  by_cases twoSided : TwoSided pnls
  · rw [estimateWinLossRatio_of_tells ⟨enough, twoSided⟩]
    simp only [enough.not_gt, twoSided, Tells, enough, not_true_eq_false, and_self, true_and,
      false_and, and_false, false_or]
    exact eq_comm
  · rw [estimateWinLossRatio_of_oneSided enough twoSided]
    simp only [enough.not_gt, twoSided, Tells, enough, not_false_eq_true, and_false, true_and,
      false_and, false_or, or_false]
    exact eq_comm

end Ratio

/-! ### The fraction and the size -/

section Size

variable {pUp equity : ℚ} {pnls : List ℚ}

theorem fullKelly_eq {b : ℚ} (positive : 0 < b) :
    (pUp * b - (1 - pUp)) / b = pUp - (1 - pUp) / b := by
  field_simp

theorem kellyFraction_le : kellyFraction pUp pnls ≤ 25 / 100 :=
  max_le (by norm_num) (min_le_right _ _)

theorem kellyFraction_eq_zero (unfavourable : pUp * estimateWinLossRatio pnls ≤ 1 - pUp) :
    kellyFraction pUp pnls = 0 := by
  refine max_eq_left ((min_le_left _ _).trans ?_)
  refine mul_nonpos_of_nonneg_of_nonpos (by norm_num [fractionalKelly]) ?_
  exact div_nonpos_of_nonpos_of_nonneg (by linarith) estimateWinLossRatio_pos.le

theorem kellyFraction_mono {higher : ℚ} {others : List ℚ}
    (le : (pUp * estimateWinLossRatio pnls - (1 - pUp)) / estimateWinLossRatio pnls ≤
      (higher * estimateWinLossRatio others - (1 - higher)) / estimateWinLossRatio others) :
    kellyFraction pUp pnls ≤ kellyFraction higher others := by
  exact max_le_max_left _ (min_le_min_right _
    (mul_le_mul_of_nonneg_left le (by norm_num [fractionalKelly])))

theorem kellyFraction_mono_probability {higher : ℚ} (le : pUp ≤ higher) :
    kellyFraction pUp pnls ≤ kellyFraction higher pnls := by
  have positive : 0 < estimateWinLossRatio pnls := estimateWinLossRatio_pos
  refine kellyFraction_mono (div_le_div_of_nonneg_right ?_ positive.le)
  have grows := mul_le_mul_of_nonneg_right le positive.le
  linarith

theorem kellyFraction_mono_ratio (probability : pUp ≤ 1) {others : List ℚ}
    (le : estimateWinLossRatio pnls ≤ estimateWinLossRatio others) :
    kellyFraction pUp pnls ≤ kellyFraction pUp others := by
  have positive : 0 < estimateWinLossRatio pnls := estimateWinLossRatio_pos
  refine kellyFraction_mono ?_
  rw [fullKelly_eq positive, fullKelly_eq (positive.trans_le le)]
  have falls := div_le_div_of_nonneg_left (sub_nonneg.mpr probability) positive le
  linarith

theorem computeOrderSize_mono {higher : ℚ} {others : List ℚ} (nonneg : 0 ≤ equity)
    (le : kellyFraction pUp pnls ≤ kellyFraction higher others) :
    computeOrderSize pUp equity pnls ≤ computeOrderSize higher equity others := by
  have grows := mul_le_mul_of_nonneg_left le nonneg
  unfold computeOrderSize
  dsimp only
  split
  · split
    · exact le_rfl
    · next enough =>
      have large := (show (0 : ℚ) ≤ minOrder by norm_num [minOrder]).trans (not_lt.mp enough)
      exact le_min large (by positivity)
  · next enough =>
    rw [if_neg fun small => enough (grows.trans_lt small)]
    exact min_le_min_right _ grows

theorem computeOrderSize_bounds (nonneg : 0 ≤ equity) : computeOrderSize pUp equity pnls = 0 ∨
    5 / 10 ≤ computeOrderSize pUp equity pnls ∧
      computeOrderSize pUp equity pnls ≤ 25 / 100 * equity := by
  have capped : equity * kellyFraction pUp pnls ≤ equity * (25 / 100) :=
    mul_le_mul_of_nonneg_left kellyFraction_le nonneg
  have half : equity * kellyFraction pUp pnls ≤ equity * (5 / 10) := by linarith
  unfold computeOrderSize
  dsimp only
  split
  · exact Or.inl rfl
  · next enough =>
    rw [min_eq_left half]
    exact Or.inr ⟨not_lt.mp enough, by linarith⟩

theorem computeOrderSize_eq_zero (unfavourable : pUp * estimateWinLossRatio pnls ≤ 1 - pUp) :
    computeOrderSize pUp equity pnls = 0 := by
  unfold computeOrderSize
  rw [kellyFraction_eq_zero unfavourable, mul_zero]
  exact if_pos (by norm_num [minOrder])

end Size

/-! ### The size by the record -/

/-- The size is sane on any record, and it is that of the user's own trades of the asset just where
these tell nothing or their ratio is, by chance, the one of the rows that are read instead. -/
theorem sizesSanely_iff {trades : List RecordedTrade} {userId base : String} {pUp equity : ℚ}
    (probability : pUp ≤ 1) (nonneg : 0 ≤ equity) :
    SizesSanely trades userId base pUp equity ↔
      (Tells (botPnls trades userId base) →
        RatioAgrees (symbolPnls trades userId base) (botPnls trades userId base)) := by
  constructor
  · intro sane tells
    exact estimateWinLossRatio_eq_iff.mp (sane.ownRatio tells)
  · intro agrees
    exact {
      bounds := computeOrderSize_bounds nonneg
      unfavourable := computeOrderSize_eq_zero
      monoProbability := fun higher le =>
        computeOrderSize_mono nonneg (kellyFraction_mono_probability le)
      monoRatio := fun others otherUser otherBase le =>
        computeOrderSize_mono nonneg (kellyFraction_mono_ratio probability le)
      ownRatio := fun tells => estimateWinLossRatio_eq_iff.mpr (agrees tells) }

/-- Nine wins of one amount and a loss of one dollar, as the bots store them. -/
def tenTrades (win : ℚ) : List RecordedTrade :=
  (List.range 10).map fun index =>
    ⟨"user", "BTC/USDT", .closed, some (if index = 0 then -1 else win), index⟩

theorem tells_tenTrades : Tells (botPnls (tenTrades (15 / 10)) "user" "BTC") := by
  refine ⟨?_, ⟨15 / 10, ?_⟩, -1, ?_⟩ <;> decide +kernel

theorem sizesSanely_tenTrades : Tells (botPnls (tenTrades (15 / 10)) "user" "BTC") ∧
    SizesSanely (tenTrades (15 / 10)) "user" "BTC" (6 / 10) 1000 :=
  ⟨tells_tenTrades, (sizesSanely_iff (by norm_num) (by norm_num)).mpr fun _ =>
    Or.inl (by decide +kernel)⟩

/-- Wins of ten cents against losses of a dollar are taken for wins of three halves. -/
theorem not_sizesSanely_tenTrades :
    ¬ SizesSanely (tenTrades (1 / 10)) "user" "BTC" (6 / 10) 1000 := by
  intro sane
  have tells : Tells (botPnls (tenTrades (1 / 10)) "user" "BTC") := by
    refine ⟨?_, ⟨1 / 10, ?_⟩, -1, ?_⟩ <;> decide +kernel
  have different : estimateWinLossRatio (symbolPnls (tenTrades (1 / 10)) "user" "BTC") ≠
      payoffRatio (botPnls (tenTrades (1 / 10)) "user" "BTC") := by
    decide +kernel
  exact different (sane.ownRatio tells)

end GdslExchange.SuperMachine
