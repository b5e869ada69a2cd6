/-
This file models the break-even price of an open lot, as the list of open positions and the guard of
a sell compute it, and says that it is the exact threshold of the estimate: what is estimated at a
price reaches the minimum net profit where the price reaches the break-even.

The rounding of the estimate and of the break-even is an argument. In exact arithmetic it is the
identity.
-/

import GdslExchange.Jupiter.Book
import GdslExchange.Portfolio.NetEstimate
import Mathlib.Data.List.Sort

namespace GdslExchange.Jupiter

open Numeric Portfolio

/-! ### Open lots -/

/-- What the OPEN rows of a token amount to. -/
structure OpenLots where
  totalAlloc : ℚ
  weightedEntry : ℚ
  bankedSkim : ℚ

/-- A row that has an allocation and a price. -/
def Trade.Counts (trade : Trade) : Prop := 0 < trade.alloc ∧ 0 < trade.entryPrice

instance (trade : Trade) : Decidable trade.Counts := inferInstanceAs (Decidable (_ ∧ _))

/-- One more row. -/
def OpenLots.add (lots : OpenLots) (trade : Trade) : OpenLots :=
  if trade.Counts then
    { totalAlloc := lots.totalAlloc + trade.alloc
      weightedEntry := lots.weightedEntry + trade.entryPrice * trade.alloc
      bankedSkim := lots.bankedSkim + max 0 trade.banked }
  else lots

def openLots (trades : List Trade) : OpenLots := trades.foldl OpenLots.add ⟨0, 0, 0⟩

namespace OpenLots

variable (lots : OpenLots)

def avgEntry : ℚ := lots.weightedEntry / lots.totalAlloc

def qty : ℚ := if 0 < lots.avgEntry then lots.totalAlloc / lots.avgEntry else 0

end OpenLots

def getJupiterOpenEntry (opens : List Trade) : Option OpenLots :=
  if 0 < (openLots opens).totalAlloc then some (openLots opens) else none

/-- The price at which an allocation brings a net profit, before slippage and gas are paid. -/
def breakEvenPrice (alloc entry slippageBps targetNet : ℚ) : ℚ :=
  let requiredGross := targetNet / slipFactor slippageBps
  entry * (1 + requiredGross / alloc)

/-- What a price has to rise in per cent to reach the break-even. -/
def upsideTo (breakEven price : ℚ) : ℚ :=
  if breakEven ≤ price then 0 else roundTo 2 ((breakEven - price) / price * 100)

/-- What the profit gates are told. -/
structure ProfitSettings where
  dexMinNetProfitUsd : ℚ
  slippageBps : ℚ

def ProfitSettings.targetNet (settings : ProfitSettings) : ℚ :=
  settings.dexMinNetProfitUsd + solanaDexRoundTripFeeUsd

/-! ### The list of open positions -/

structure JupiterOpenPosition where
  baseSymbol : String
  avgEntry : ℚ
  qty : ℚ
  totalAllocUsd : ℚ
  liveSellPrice : Option ℚ
  currentValueUsd : Option ℚ
  estNetPnlUsd : Option ℚ
  breakEvenSellPrice : Option ℚ
  upsideToBreakEvenPct : Option ℚ
  priceVsEntryPct : Option ℚ
  inProfit : Bool
  bankedSkimUsd : ℚ

/-- The tokens that can be traded, and the bid for a quantity of a token. -/
structure Marks where
  tradable : String → Bool
  bid : String → ℚ → Option ℚ

/-- `String(t.pair ?? '').replace(/\/USDT$/i, '').toUpperCase()`. -/
def baseOfPair (pair : String) : String :=
  if pair.toUpper.endsWith "/USDT" then (pair.dropEnd 5).toString.toUpper else pair.toUpper

section Positions

variable (rounding : ℚ → ℚ) (settings : ProfitSettings)

/-- The position of a token at its bid. -/
def openPosition (base : String) (lots : OpenLots) (liveSellPrice : Option ℚ) :
    JupiterOpenPosition :=
  let live := liveSellPrice.filter (0 < ·)
  let breakEven :=
    breakEvenPrice lots.totalAlloc lots.avgEntry settings.slippageBps settings.targetNet
  { baseSymbol := base
    avgEntry := roundTo 8 lots.avgEntry
    qty := roundTo 8 lots.qty
    totalAllocUsd := roundTo 2 lots.totalAlloc
    liveSellPrice := liveSellPrice.map (roundTo 8)
    currentValueUsd := live.map fun price => roundTo 4 (lots.qty * price)
    estNetPnlUsd := live.map fun price => estimatedNet rounding lots.totalAlloc lots.avgEntry price
      settings.slippageBps solanaDexRoundTripFeeUsd
    breakEvenSellPrice := live.bind fun _ =>
      if 0 < slipFactor settings.slippageBps then some (rounding breakEven) else none
    upsideToBreakEvenPct := live.bind fun price =>
      if 0 < slipFactor settings.slippageBps then some (upsideTo breakEven price) else none
    priceVsEntryPct := live.map fun price =>
      roundTo 2 ((price - lots.avgEntry) / lots.avgEntry * 100)
    inProfit := liveSellPrice.any (lots.avgEntry < ·)
    bankedSkimUsd := roundTo 4 lots.bankedSkim }

/-- The rows of a token that count. -/
def rowsOfBase (base : String) (opens : List Trade) : List Trade :=
  opens.filter fun trade => trade.Counts ∧ baseOfPair trade.pair = base

/-- The tokens of the rows that count, in the order in which they first appear. -/
def basesOf (opens : List Trade) : List String :=
  (((opens.filter fun trade => trade.Counts).map fun trade => baseOfPair trade.pair).filter
    (· ≠ "")).reverse.dedup.reverse

def getJupiterOpenPositions (marks : Marks) (opens : List Trade) : List JupiterOpenPosition :=
  let positions := (basesOf opens).filterMap fun base =>
    let lots := openLots (rowsOfBase base opens)
    if lots.totalAlloc ≤ 0 ∨ ¬ marks.tradable base then none
    else some (openPosition rounding settings base lots (marks.bid base lots.qty))
  positions.insertionSort fun first second => second.totalAllocUsd ≤ first.totalAllocUsd

end Positions

/-! ### The guard of a sell -/

/-- The percentages of the exit settings. -/
structure ExitPercents where
  takeProfitPct : ℚ
  stopLossPct : ℚ

/-- What the guard of a sell finds out. -/
structure SellGuard where
  openEntryPrice : ℚ
  priceVsEntryBps : ℤ
  estNetPnlUsd : ℚ
  breakEvenSellPrice : Option ℚ
  minProfitableSellPrice : ℚ
  upsideToBreakEvenPct : Option ℚ
  isStopLoss : Bool
  clearsBreakEven : Bool
  clearsFees : Bool
  blockReason : Option String

/-- A price as it is printed: with two places from one dollar on, and six below. -/
def priceText (price : ℚ) : String := (toFixed (if 1 ≤ price then 2 else 6) price).render

/-- The part of the lots that is sold. -/
def OpenLots.sliceAlloc (lots : OpenLots) (inHuman : ℚ) : ℚ :=
  let lotQty := lots.totalAlloc / lots.avgEntry
  let frac := if 0 < lotQty then min 1 (inHuman / lotQty) else 1
  lots.totalAlloc * frac

section Guard

variable (rounding : ℚ → ℚ) (settings : ProfitSettings) (exits : ExitPercents)

/-- Why a sell is blocked. -/
def blockText (lots : OpenLots) (estNet executablePrice : ℚ) (breakEven upside : Option ℚ) :
    String :=
  "Sell now nets $" ++ (toFixed 2 estNet).render ++
    " after spread + fees. Break-even sell price is $" ++ priceText (breakEven.getD lots.avgEntry) ++
    "/token (live " ++ priceText executablePrice ++ "). Wait for +" ++
    (toFixed 2 (upside.getD 0)).render ++ "% or let auto take-profit fire at " ++
    text exits.takeProfitPct ++ "%. Use stop-loss at −" ++ text exits.stopLossPct ++
    "% to exit a loss."

def guardLots (lots : OpenLots) (inHuman executablePrice : ℚ) : SellGuard :=
  let sliceAlloc := lots.sliceAlloc inHuman
  let estNet := estimatedNet rounding sliceAlloc lots.avgEntry executablePrice settings.slippageBps
    solanaDexRoundTripFeeUsd
  let breakEven :=
    if 0 < sliceAlloc ∧ 0 < slipFactor settings.slippageBps then
      some (breakEvenPrice sliceAlloc lots.avgEntry settings.slippageBps settings.targetNet)
    else none
  let upside := breakEven.map fun breakEven => upsideTo breakEven executablePrice
  let priceVsEntryBps := Numeric.round ((executablePrice - lots.avgEntry) / lots.avgEntry * 10000)
  let isStopLoss : Bool := (priceVsEntryBps : ℚ) / 100 ≤ -exits.stopLossPct
  let clearsBreakEven : Bool := breakEven.any fun breakEven => breakEven ≤ executablePrice
  let clearsFees : Bool := settings.dexMinNetProfitUsd ≤ estNet
  { openEntryPrice := lots.avgEntry
    priceVsEntryBps := priceVsEntryBps
    estNetPnlUsd := estNet
    breakEvenSellPrice := breakEven
    minProfitableSellPrice := breakEven.getD lots.avgEntry
    upsideToBreakEvenPct := upside
    isStopLoss := isStopLoss
    clearsBreakEven := clearsBreakEven
    clearsFees := clearsFees
    blockReason :=
      if ¬ isStopLoss ∧ (¬ clearsBreakEven ∨ ¬ clearsFees) then
        some (blockText exits lots estNet executablePrice breakEven upside)
      else none }

/-- The guard of a sell in `previewJupiterSwap`, which a quote reaches that takes and brings
something. -/
def sellGuard (opens : List Trade) (inHuman outHuman : ℚ) : Option SellGuard :=
  if 0 < inHuman ∧ 0 < outHuman then
    (getJupiterOpenEntry opens).map fun lots =>
      guardLots rounding settings exits lots inHuman (outHuman / inHuman)
  else none

end Guard

/-! ### The threshold -/

theorem breakEvenPrice_le_iff {alloc entry slippageBps minimum fee price : ℚ} (funded : 0 < alloc)
    (priced : 0 < entry) : breakEvenPrice alloc entry slippageBps (minimum + fee) ≤ price ↔
      minimum ≤ netAfterSlippage alloc entry price slippageBps fee := by
  have factor := slipFactor_pos slippageBps
  unfold breakEvenPrice netAfterSlippage
  calc entry * (1 + (minimum + fee) / slipFactor slippageBps / alloc) ≤ price
    _ ↔ 1 + (minimum + fee) / slipFactor slippageBps / alloc ≤ price / entry := by
        rw [le_div_iff₀ priced, mul_comm]
    _ ↔ (minimum + fee) / slipFactor slippageBps / alloc ≤ price / entry - 1 := by
        rw [le_sub_iff_add_le, add_comm]
    _ ↔ (minimum + fee) / slipFactor slippageBps ≤ alloc * (price / entry - 1) := by
        rw [div_le_iff₀ funded, mul_comm]
    _ ↔ minimum + fee ≤ alloc * (price / entry - 1) * slipFactor slippageBps :=
        div_le_iff₀ factor
    _ ↔ _ := by rw [← le_sub_iff_add_le]

def IsThreshold (settings : ProfitSettings) (alloc entry breakEven : ℚ) : Prop :=
  ∀ price, 0 < price →
    (settings.dexMinNetProfitUsd ≤
        estimatedNet id alloc entry price settings.slippageBps solanaDexRoundTripFeeUsd ↔
      breakEven ≤ price)

theorem isThreshold_breakEvenPrice {settings : ProfitSettings} {alloc entry : ℚ}
    (funded : 0 < alloc) (priced : 0 < entry) : IsThreshold settings alloc entry
      (breakEvenPrice alloc entry settings.slippageBps settings.targetNet) := by
  intro price quoted
  rw [estimatedNet_eq funded priced quoted]
  exact (breakEvenPrice_le_iff funded priced).symm

/-! ### Lots have a price -/

/-- Lots that have an allocation have a price. -/
structure OpenLots.Priced (lots : OpenLots) : Prop where
  alloc : 0 ≤ lots.totalAlloc
  entry : 0 ≤ lots.weightedEntry
  priced : 0 < lots.totalAlloc → 0 < lots.weightedEntry

theorem OpenLots.Priced.add {lots : OpenLots} (isPriced : lots.Priced) (trade : Trade) :
    (lots.add trade).Priced := by
  unfold OpenLots.add
  split
  · next counts =>
    have cost := mul_pos counts.2 counts.1
    refine ⟨?_, ?_, fun _ => ?_⟩
    · exact add_nonneg isPriced.alloc counts.1.le
    · exact add_nonneg isPriced.entry cost.le
    · exact add_pos_of_nonneg_of_pos isPriced.entry cost
  · exact isPriced

theorem priced_openLots (trades : List Trade) : (openLots trades).Priced := by
  induction trades using List.reverseRecOn with
  | nil => exact ⟨le_rfl, le_rfl, fun funded => funded⟩
  | append_singleton trades trade inductionHypothesis =>
    unfold openLots
    rw [List.foldl_append]
    exact inductionHypothesis.add trade

theorem OpenLots.Priced.avgEntry_pos {lots : OpenLots} (isPriced : lots.Priced)
    (funded : 0 < lots.totalAlloc) : 0 < lots.avgEntry := div_pos (isPriced.priced funded) funded

theorem OpenLots.Priced.sliceAlloc_pos {lots : OpenLots} (isPriced : lots.Priced)
    (funded : 0 < lots.totalAlloc) {inHuman : ℚ} (sells : 0 < inHuman) :
    0 < lots.sliceAlloc inHuman := by
  have quantity := div_pos funded (isPriced.avgEntry_pos funded)
  unfold OpenLots.sliceAlloc
  dsimp only
  rw [if_pos quantity]
  exact mul_pos funded (lt_min one_pos (div_pos sells quantity))

/-! ### The threshold of the positions and of the guard -/

variable {settings : ProfitSettings} {exits : ExitPercents}

/-- The break-even of a position is there at a bid, and is the threshold of its lots. -/
structure ThresholdOf (settings : ProfitSettings) (lots : OpenLots)
    (position : JupiterOpenPosition) : Prop where
  there : position.breakEvenSellPrice.isSome = position.estNetPnlUsd.isSome
  threshold : ∀ breakEven ∈ position.breakEvenSellPrice,
    IsThreshold settings lots.totalAlloc lots.avgEntry breakEven

/-- The break-even of a guard is the threshold of the part of the lots that is sold, and its two
conditions agree. -/
structure GuardAgrees (settings : ProfitSettings) (lots : OpenLots) (inHuman : ℚ)
    (guard : SellGuard) : Prop where
  threshold : ∃ breakEven, guard.breakEvenSellPrice = some breakEven ∧
    IsThreshold settings (lots.sliceAlloc inHuman) lots.avgEntry breakEven
  agree : guard.clearsBreakEven = guard.clearsFees

theorem thresholdOf_openPosition {lots : OpenLots} (isPriced : lots.Priced)
    (funded : 0 < lots.totalAlloc) (base : String) (liveSellPrice : Option ℚ) :
    ThresholdOf settings lots (openPosition id settings base lots liveSellPrice) where
  there := by
    simp only [openPosition, if_pos (slipFactor_pos _), Option.isSome_map, Option.isSome_bind,
      Option.isSome_some]
    cases liveSellPrice.filter (0 < ·) <;> rfl
  threshold breakEven isBreakEven := by
    simp only [openPosition, if_pos (slipFactor_pos _), Option.mem_def, Option.bind_eq_some_iff,
      Option.some.injEq, id_eq] at isBreakEven
    obtain ⟨-, -, rfl⟩ := isBreakEven
    exact isThreshold_breakEvenPrice funded (isPriced.avgEntry_pos funded)

theorem guardAgrees_guardLots {lots : OpenLots} (isPriced : lots.Priced)
    (funded : 0 < lots.totalAlloc) {inHuman price : ℚ} (sells : 0 < inHuman) (quoted : 0 < price) :
    GuardAgrees settings lots inHuman (guardLots id settings exits lots inHuman price) := by
  have sliced := isPriced.sliceAlloc_pos funded sells
  have threshold := @isThreshold_breakEvenPrice settings _ _ sliced (isPriced.avgEntry_pos funded)
  have isBreakEven : (guardLots id settings exits lots inHuman price).breakEvenSellPrice =
      some (breakEvenPrice (lots.sliceAlloc inHuman) lots.avgEntry settings.slippageBps
        settings.targetNet) := if_pos ⟨sliced, slipFactor_pos _⟩
  refine ⟨⟨_, isBreakEven, threshold⟩, ?_⟩
  have clears : (guardLots id settings exits lots inHuman price).clearsBreakEven =
      (guardLots id settings exits lots inHuman price).breakEvenSellPrice.any
        fun breakEven => breakEven ≤ price := rfl
  rw [clears, isBreakEven]
  exact decide_eq_decide.mpr (threshold price quoted).symm

/-- Five hundredths of a dollar are to be made of fifty dollars of SOL, bought at a hundred. -/
example : (sellGuard id ⟨5 / 100, 100⟩ ⟨2, 5⟩
    [⟨"SOL/USDT", 100, none, none, some 50, none, .open⟩] (1 / 2) 52).map
      (fun guard => (guard.estNetPnlUsd, guard.clearsBreakEven, guard.clearsFees)) =
    some (1965 / 1000, true, true) := by decide +kernel

end GdslExchange.Jupiter
