/-
This file settles when a profit skim only sells profit: always, unless nothing of the coin is free,
in which case the slice is not held to what is.
-/

import GdslExchange.Cex.Lot

namespace GdslExchange.Cex

open Jupiter (profitPct)

/-! ### The property and the condition -/

/-- The slice is part of the profit, the account has it, and the exchange takes it; what is left of
the lot is worth what was spent on it. -/
structure SellsProfit (long : CexOpenLong) (mark : ℚ) (freeBase : Option ℚ) (slice : CexSkimSlice) :
    Prop where
  positive : 0 < slice.skimQty
  half : slice.skimQty ≤ long.baseQty / 2
  free : ∀ free ∈ freeBase, slice.skimQty ≤ 98 / 100 * free
  minimum : cexMinSellNotionalUsd ≤ slice.skimQty * mark
  profit : slice.skimQty * mark ≤ long.baseQty * (mark - long.entryPrice)
  runner : long.quoteSpent ≤ (long.baseQty - slice.skimQty) * mark

/-- The lot has a profit, and half of it and the profit are worth an order. -/
structure Skimmable (long : CexOpenLong) (mark : ℚ) : Prop where
  gains : 5 / 100 < profitPct long.entryPrice mark
  half : cexMinSellNotionalUsd ≤ long.baseQty / 2 * mark
  profit : cexMinSellNotionalUsd ≤ long.baseQty * (mark - long.entryPrice)

/-! ### The slice -/

section Slice

variable {long : CexOpenLong} {mark : ℚ} {freeBase : Option ℚ}

theorem profitUsd_eq (cost : long.quoteSpent = long.baseQty * long.entryPrice) :
    long.quoteSpent * (profitPct long.entryPrice mark / 100) =
      long.baseQty * (mark - long.entryPrice) := by
  have priced := long.entryPrice_pos.ne'
  rw [cost]
  unfold profitPct
  field_simp

theorem entryPrice_lt (gains : 5 / 100 < profitPct long.entryPrice mark) :
    long.entryPrice < mark := by
  unfold profitPct at gains
  by_contra falls
  have loss : (mark - long.entryPrice) / long.entryPrice ≤ 0 :=
    div_nonpos_of_nonpos_of_nonneg (by linarith) long.entryPrice_pos.le
  linarith

/-- Half of the lot, or the profit where that is less. -/
def profitQty (long : CexOpenLong) (mark : ℚ) : ℚ :=
  min (long.baseQty * (1 / 2)) (long.quoteSpent * (profitPct long.entryPrice mark / 100) / mark)

/-- The slice is held to what is free, where something is. -/
def slicedQty (long : CexOpenLong) (mark : ℚ) : Option ℚ → ℚ
  | some free =>
    if free > 0 then min (profitQty long mark) (free * (98 / 100)) else profitQty long mark
  | none => profitQty long mark

theorem slicedQty_le : slicedQty long mark freeBase ≤ profitQty long mark := by
  unfold slicedQty
  split
  · split
    · exact min_le_left _ _
    · exact le_rfl
  · exact le_rfl

theorem profitQty_le_half : profitQty long mark ≤ long.baseQty / 2 :=
  (min_le_left _ _).trans (by linarith)

/-- A slice that is not blocked. -/
structure IsSlice (long : CexOpenLong) (mark : ℚ) (freeBase : Option ℚ) (slice : CexSkimSlice) :
    Prop where
  gains : 5 / 100 < profitPct long.entryPrice mark
  sliced : slice.skimQty = slicedQty long mark freeBase
  positive : 0 < slice.skimQty
  minimum : cexMinSellNotionalUsd ≤ slice.skimQty * mark

theorem computeCexSkimSlice_eq : computeCexSkimSlice long mark freeBase =
    let blocked (notional : ℚ) (reason : String) : CexSkimSlice :=
      ⟨profitPct long.entryPrice mark, 0, notional, long.baseQty * mark, some reason⟩
    let skimQty := slicedQty long mark freeBase
    if profitPct long.entryPrice mark ≤ 5 / 100 then blocked 0 "Not in profit yet"
    else if skimQty ≤ 0 ∨ skimQty ≥ long.baseQty * (9 / 10) then
      blocked 0 "Profit slice is too small to skim yet"
    else if skimQty * mark < cexMinSellNotionalUsd then
      blocked (skimQty * mark) ("Profit slice ~$" ++ (Numeric.toFixed 2 (skimQty * mark)).render ++
        " is under Binance's $5 minimum order")
    else ⟨profitPct long.entryPrice mark, skimQty, skimQty * mark, long.baseQty * mark, none⟩ := by
  cases freeBase <;> rfl

theorem unblocked_iff : (computeCexSkimSlice long mark freeBase).blockedReason = none ↔
    5 / 100 < profitPct long.entryPrice mark ∧ 0 < slicedQty long mark freeBase ∧
      cexMinSellNotionalUsd ≤ slicedQty long mark freeBase * mark := by
  have notNearlyAll : ¬ slicedQty long mark freeBase ≥ long.baseQty * (9 / 10) := by
    have half := (@slicedQty_le long mark freeBase).trans profitQty_le_half
    have lot := long.baseQty_pos
    intro nearlyAll
    linarith
  rw [computeCexSkimSlice_eq]
  dsimp only
  split
  · next still => exact iff_of_false nofun fun unblocked => not_lt.mpr still unblocked.1
  · next gains =>
    split
    · next small =>
      refine iff_of_false nofun fun unblocked => ?_
      exact small.elim (not_le.mpr unblocked.2.1) notNearlyAll
    · next sells =>
      split
      · next under => exact iff_of_false nofun fun unblocked => not_lt.mpr unblocked.2.2 under
      · next reaches =>
        exact iff_of_true rfl ⟨not_le.mp gains, not_le.mp fun none => sells (.inl none),
          not_lt.mp reaches⟩

theorem isSlice_of_unblocked
    (unblocked : (computeCexSkimSlice long mark freeBase).blockedReason = none) :
    IsSlice long mark freeBase (computeCexSkimSlice long mark freeBase) := by
  obtain ⟨gains, positive, minimum⟩ := unblocked_iff.mp unblocked
  have sliced : (computeCexSkimSlice long mark freeBase).skimQty =
      slicedQty long mark freeBase := by
    rw [computeCexSkimSlice_eq] at unblocked ⊢
    dsimp only at unblocked ⊢
    split_ifs at unblocked ⊢
    rfl
  exact ⟨gains, sliced, by rwa [sliced], by rwa [sliced]⟩

theorem IsSlice.sellsProfit_iff_free {slice : CexSkimSlice} (isSlice : IsSlice long mark freeBase slice)
    (cost : long.quoteSpent = long.baseQty * long.entryPrice) :
    SellsProfit long mark freeBase slice ↔ ∀ free ∈ freeBase, slice.skimQty ≤ 98 / 100 * free := by
  refine ⟨fun sells => sells.free, fun free => ?_⟩
  have rose := entryPrice_lt isSlice.gains
  have priced : 0 < mark := long.entryPrice_pos.trans rose
  have within : slice.skimQty ≤ profitQty long mark := isSlice.sliced ▸ slicedQty_le
  have profit : slice.skimQty * mark ≤ long.baseQty * (mark - long.entryPrice) := by
    rw [← le_div_iff₀ priced, ← profitUsd_eq cost]
    exact within.trans (min_le_right _ _)
  refine ⟨isSlice.positive, within.trans profitQty_le_half, free, isSlice.minimum, profit, ?_⟩
  linarith

/-- Without a cap a lot that can be skimmed is. -/
theorem unblocked_zero_iff (cost : long.quoteSpent = long.baseQty * long.entryPrice) :
    (computeCexSkimSlice long mark (some 0)).blockedReason = none ↔ Skimmable long mark := by
  have uncapped : slicedQty long mark (some 0) = profitQty long mark := by
    unfold slicedQty
    dsimp only
    rw [if_neg (lt_irrefl 0)]
  rw [unblocked_iff, uncapped]
  have worth (gains : 5 / 100 < profitPct long.entryPrice mark) : profitQty long mark * mark =
      min (long.baseQty / 2 * mark) (long.baseQty * (mark - long.entryPrice)) := by
    have priced : 0 < mark := long.entryPrice_pos.trans (entryPrice_lt gains)
    unfold profitQty
    rw [profitUsd_eq cost, min_mul_of_nonneg _ _ priced.le, div_mul_cancel₀ _ priced.ne',
      mul_one_div]
  constructor
  · rintro ⟨gains, -, minimum⟩
    rw [worth gains, le_min_iff] at minimum
    exact ⟨gains, minimum.1, minimum.2⟩
  · rintro ⟨gains, half, profit⟩
    have minimum : cexMinSellNotionalUsd ≤ profitQty long mark * mark := by
      rw [worth gains]
      exact le_min half profit
    have priced : 0 < mark := long.entryPrice_pos.trans (entryPrice_lt gains)
    have order : 0 < cexMinSellNotionalUsd := by norm_num [cexMinSellNotionalUsd]
    exact ⟨gains, pos_of_mul_pos_left (order.trans_le minimum) priced.le, minimum⟩

/-- A profit skim only sells profit, unless its free balance is zero and the lot can be skimmed. -/
theorem sellsProfit_iff (cost : long.quoteSpent = long.baseQty * long.entryPrice)
    (nonneg : ∀ free ∈ freeBase, 0 ≤ free) :
    ((computeCexSkimSlice long mark freeBase).blockedReason = none →
        SellsProfit long mark freeBase (computeCexSkimSlice long mark freeBase)) ↔
      ¬ (freeBase = some 0 ∧ Skimmable long mark) := by
  constructor
  · rintro sells ⟨rfl, skimmable⟩
    have sold := sells ((unblocked_zero_iff cost).mpr skimmable)
    have none := sold.free 0 rfl
    linarith [sold.positive]
  · intro capped unblocked
    have isSlice := isSlice_of_unblocked unblocked
    refine (isSlice.sellsProfit_iff_free cost).mpr fun free isFree => ?_
    obtain rfl : freeBase = some free := isFree
    obtain isPositive | isZero := (nonneg free rfl).lt_or_eq
    · rw [isSlice.sliced]
      unfold slicedQty
      dsimp only
      rw [if_pos isPositive, mul_comm (98 / 100)]
      exact min_le_right _ _
    · subst isZero
      exact absurd ⟨rfl, (unblocked_zero_iff cost).mp unblocked⟩ capped

end Slice

/-! ### A lot of a thousand dollars -/

/-- Ten coins that were bought at a hundred dollars. -/
def tenCoins : CexOpenLong where
  symbol := "SOLUSDT"
  pair := "SOL/USDT"
  entryPrice := 100
  baseQty := 10
  quoteSpent := 1000
  skimmedUsd := 0
  takeProfitPct := none
  stopLossPct := none
  trailingStop := none
  trailingPeak := none
  entryPrice_pos := by norm_num
  baseQty_pos := by norm_num

theorem sellsProfit_tenCoins :
    (computeCexSkimSlice tenCoins 110 (some 10)).blockedReason = none ∧
      SellsProfit tenCoins 110 (some 10) (computeCexSkimSlice tenCoins 110 (some 10)) := by
  have unblocked : (computeCexSkimSlice tenCoins 110 (some 10)).blockedReason = none := by
    decide +kernel
  refine ⟨unblocked, (sellsProfit_iff (by norm_num [tenCoins]) (by decide +kernel)).mpr
    (fun zero => ?_) unblocked⟩
  cases zero.1

/-- With no coin free the slice is still ten elevenths of a coin. -/
theorem not_sellsProfit_tenCoins :
    ¬ ((computeCexSkimSlice tenCoins 110 (some 0)).blockedReason = none →
      SellsProfit tenCoins 110 (some 0) (computeCexSkimSlice tenCoins 110 (some 0))) := by
  intro sells
  have unblocked : (computeCexSkimSlice tenCoins 110 (some 0)).blockedReason = none := by
    decide +kernel
  exact absurd ((sells unblocked).free 0 rfl) (by decide +kernel)

end GdslExchange.Cex
