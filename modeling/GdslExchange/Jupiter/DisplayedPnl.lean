/-
This file settles when the profit that is displayed for a closed lot is the one
that its sells have booked.

The sells add up what they realize on the row; the display computes the profit
anew from the allocation that the last sell left on the row. What was skimmed
before is therefore not displayed, unless the last sell is a skim itself, which
empties the allocation.
-/

import GdslExchange.Jupiter.SellAccounting
import GdslExchange.Portfolio.RoundTrip

namespace GdslExchange.Jupiter

open Async Async.Program Async.Contract
open Numeric Portfolio

/-! ### Sells of a lot -/

/-- A sell as it was executed and booked. -/
structure Sell where
  swap : Swap
  price : ℚ
deriving DecidableEq

/-- The row of a lot after some sells, the latest first. -/
def rowAfter (row : Trade) : List Sell → Trade
  | [] => row
  | sell :: earlier => soldRow (rowAfter row earlier) sell.swap sell.price

/-- A lot of at least half a dollar of which nothing has been sold. -/
structure FreshLot extends Lot where
  unskimmed : row.pnl = none
  large : 1 / 2 ≤ row.alloc

/-- One SELL that has run from its beginning to its end. -/
structure SellCall where
  settings : Settings
  request : SwapRequest
  options : ExecuteOptions
  moment : Moment venue
  isSell : request.side = .sell

/-- The call is a run of `executeJupiterSwap` from the desk that nothing else disturbs. -/
def SellCall.RunsFrom (pair : String) (desk : Desk) (call : SellCall) : Prop :=
  ∃ (system : System venue SwapResult) (turns : List (Turn venue)),
    system = .solo desk (executeJupiterSwap call.settings call.request call.options) ∧
      (system.run turns).moment = call.moment ∧
      ((system.run turns).calls[0]?.bind result?).isSome ∧
      ∀ step ∈ system.steps turns, Undisturbed pair step

/-- What the log of a call says it sold. -/
def SellCall.sell (id : ℕ) (call : SellCall) : Option Sell :=
  let account := sellAccount id call.moment
  account.swap.map fun swap => ⟨swap, bookedPrice swap account.mark⟩

def sellsOf (id : ℕ) (calls : List SellCall) : List Sell := calls.filterMap (SellCall.sell id)

/-- The desk after some calls, the latest first. -/
def deskAfterSells (start : Desk) : List SellCall → Desk
  | [] => start
  | call :: _ => call.moment.state

/-- The calls sell one after the other a lot that each finds OPEN. -/
def Sells (lot : Lot) (start : Desk) : List SellCall → Prop
  | [] => LotIs lot.pair lot.id lot.row start.trades
  | call :: earlier => Sells lot start earlier ∧
      (∃ row, (deskAfterSells start earlier).trades[lot.id]? = some row ∧ row.IsOpen) ∧
        call.RunsFrom lot.pair (deskAfterSells start earlier)

/-! ### The property and the condition -/

/-- The row as the statistics read it. -/
def Trade.roundTrip (row : Trade) : RoundTripPnlRow where
  pair := some row.pair
  pnl := row.pnl
  allocationUsd := row.allocationUsd
  entryPrice := some row.entryPrice
  exitPrice := row.exitPrice
  strategyName := some "DEX Jupiter SOL"

/-- The displayed profit is the booked one, up to the rounding of each sell, and is trusted. -/
structure Displays (count : ℕ) (row : Trade) : Prop where
  shown : |displayRoundTripPnl row.roundTrip - row.banked| ≤ count / 10 ^ 8
  trusted : isTrustworthyRoundTripPnl row.roundTrip = true

/-- A sell of the whole allocation of a row at a price, after some profit was banked on the row:
that profit is lost in the rounding, and the profit is of a size that is trusted. -/
structure ClosesPlainly (count : ℕ) (before : Trade) (price : ℚ) : Prop where
  unskimmed : |before.banked| ≤ count / 10 ^ 8
  agrees : ¬ Disagree before.alloc
    (before.banked + roundTripRealizedPnl before.alloc before.entryPrice price)
    (roundTripRealizedPnl before.alloc before.entryPrice price)
  calm : |price / before.entryPrice - 1| < 25 / 1000 →
    |before.banked + roundTripRealizedPnl before.alloc before.entryPrice price| ≤
      before.alloc * (12 / 100)
  gain : before.banked + roundTripRealizedPnl before.alloc before.entryPrice price ≤
    before.alloc * (12 / 10)

/-- The last sell has a price, and it is a skim or closes the lot plainly. -/
def ClosesWell (count : ℕ) (before : Trade) (last : Sell) : Prop :=
  0 < last.price ∧ (before.TakesSlice last.swap ∨ ClosesPlainly count before last.price)

/-! ### The last sell -/

section LastSell

variable {count : ℕ} {before : Trade} {last : Sell}

theorem soldRow_of_takesSlice (takes : before.TakesSlice last.swap)
    (closes : ¬ (soldRow before last.swap last.price).IsOpen) :
    soldRow before last.swap last.price = { before with
      allocationUsd := none
      status := .closed
      pnl := some (before.banked + before.realized last.swap last.price)
      exitPrice := some last.price } := by
  have dust : ¬ before.remainingAlloc last.swap > dustAlloc := fun moreThanDust =>
    closes (isOpen_soldRow.mpr ⟨takes, moreThanDust⟩)
  unfold soldRow sellPatch
  rw [if_pos takes, if_neg dust]
  rfl

/-- Another sell leaves it as it was. -/
theorem soldRow_of_whole (whole : ¬ before.TakesSlice last.swap) :
    soldRow before last.swap last.price = { before with
      status := .closed
      pnl := some (before.banked +
        roundTripRealizedPnl before.alloc before.entryPrice last.price)
      exitPrice := some last.price } := by
  unfold soldRow sellPatch Trade.realized
  rw [if_neg whole, if_neg whole]
  rfl

/-- The sum of the skims is missing from what is displayed. -/
theorem displays_whole_iff (priced : 0 < before.entryPrice) (large : 1 / 2 ≤ before.alloc)
    (whole : ¬ before.TakesSlice last.swap) :
    Displays count (soldRow before last.swap last.price) ↔
      0 < last.price ∧ ClosesPlainly count before last.price := by
  have funded : 0 < before.alloc := lt_of_lt_of_le (by norm_num) large
  rw [soldRow_of_whole whole]
  set profit := roundTripRealizedPnl before.alloc before.entryPrice last.price with isProfit
  set after : Trade := { before with
    status := .closed
    pnl := some (before.banked + profit)
    exitPrice := some last.price } with isAfter
  have trusted := @trusted_iff after.roundTrip before.alloc (before.banked + profit)
    before.entryPrice last.price large priced rfl rfl rfl rfl
  by_cases sold : 0 < last.price
  swap
  · exact iff_of_false (fun displays => sold (trusted.mp displays.trusted).1) fun both => sold both.1
  have isRaw : profit = roundTo 8 (before.alloc * (last.price / before.entryPrice - 1)) := by
    rw [isProfit]
    unfold roundTripRealizedPnl
    rw [if_neg]
    exact not_or.mpr ⟨not_le.mpr funded, not_or.mpr ⟨not_le.mpr priced, not_le.mpr sold⟩⟩
  have shown : displayRoundTripPnl after.roundTrip = profit := by
    have estimate : estimateRoundTripPnlFromFills after.roundTrip = some profit := by
      rw [isRaw]
      refine if_neg ?_
      exact not_or.mpr ⟨not_le.mpr funded, not_or.mpr ⟨not_le.mpr priced, not_le.mpr sold⟩⟩
    unfold displayRoundTripPnl
    rw [estimate]
  have missing : |displayRoundTripPnl after.roundTrip - after.banked| = |before.banked| := by
    rw [shown, show after.banked = before.banked + profit from rfl, sub_add_cancel_right, abs_neg]
  rw [← isRaw] at trusted
  constructor
  · rintro ⟨near, isTrusted⟩
    obtain ⟨-, agrees, calm, gain⟩ := trusted.mp isTrusted
    exact ⟨sold, ⟨missing ▸ near, agrees, calm, gain⟩⟩
  · rintro ⟨-, plain⟩
    exact ⟨missing ▸ plain.unskimmed, trusted.mpr ⟨sold, plain.agrees, plain.calm, plain.gain⟩⟩

theorem displays_iff (priced : 0 < before.entryPrice) (large : 1 / 2 ≤ before.alloc)
    (closes : ¬ (soldRow before last.swap last.price).IsOpen) :
    Displays count (soldRow before last.swap last.price) ↔ ClosesWell count before last := by
  unfold ClosesWell
  by_cases takes : before.TakesSlice last.swap
  · rw [soldRow_of_takesSlice takes closes]
    simp only [takes, true_or, and_true]
    set after : Trade := { before with
      allocationUsd := none
      status := .closed
      pnl := some (before.banked + before.realized last.swap last.price)
      exitPrice := some last.price } with isAfter
    have trusted : isTrustworthyRoundTripPnl after.roundTrip = true ↔ 0 < last.price :=
      trusted_of_unallocated le_rfl priced
    have shown : displayRoundTripPnl after.roundTrip = after.banked :=
      display_of_unallocated le_rfl
    rw [← trusted]
    constructor
    · exact Displays.trusted
    · intro isTrusted
      refine ⟨?_, isTrusted⟩
      rw [shown, sub_self, abs_zero]
      positivity
  · rw [displays_whole_iff priced large takes]
    simp only [takes, false_or]

end LastSell

/-! ### The calls -/

section Calls

variable {lot : FreshLot} {start : Desk} {call : SellCall} {calls : List SellCall}

theorem entryPrice_rowAfter (row : Trade) (sells : List Sell) :
    (rowAfter row sells).entryPrice = row.entryPrice := by
  induction sells with
  | nil => rfl
  | cons sell earlier inductionHypothesis =>
    rw [rowAfter, entryPrice_soldRow, inductionHypothesis]

theorem large_rowAfter (lot : FreshLot) (sells : List Sell)
    (isOpen : (rowAfter lot.row sells).IsOpen) : 1 / 2 ≤ (rowAfter lot.row sells).alloc := by
  cases sells with
  | nil => exact lot.large
  | cons sell earlier =>
    have carries : (rowAfter lot.row (sell :: earlier)).alloc =
        (rowAfter lot.row earlier).remainingAlloc sell.swap := alloc_soldRow isOpen
    rw [carries]
    exact (isOpen_soldRow.mp isOpen).2.le

theorem SellCall.sold {pair : String} {id : ℕ} {row : Trade} {desk : Desk}
    (runs : call.RunsFrom pair desk) (isLot : LotIs pair id row desk.trades)
    (isOpen : row.IsOpen) :
    LotIs pair id ((call.sell id).elim row fun sell => soldRow row sell.swap sell.price)
      call.moment.state.trades := by
  obtain ⟨system, turns, isSystem, isMoment, hasEnded, undisturbed⟩ := runs
  subst isSystem
  have triple : (selling pair).Triple 0 (fun moment => moment = ⟨desk, []⟩)
      (executeJupiterSwap call.settings call.request call.options)
      (outcome (fun _ => Sold pair id row) fun _ => At pair id {} row) := by
    refine (executeJupiterSwap_sold call.isSell isOpen).weaken (fun moment start => ?_)
      fun _ _ post => post
    rw [start]
    exact ⟨rfl, isLot⟩
  obtain ⟨result, isEnded⟩ := Option.isSome_iff_exists.mp hasEnded
  obtain ⟨ended, isCall, isResult⟩ := Option.bind_eq_some_iff.mp isEnded
  have holds := (sound_alone trivial triple turns undisturbed).1.calls 0 ended isCall
  have post := holds.ended isResult rfl
  rw [isMoment] at post
  unfold SellCall.sell
  cases result with
  | ok answer =>
    obtain ⟨swap, mark, -, sold⟩ := post
    rw [sold.account]
    exact sold.lot
  | error message =>
    have kept : At pair id {} row call.moment := post
    rw [kept.account]
    exact kept.lot

theorem Sells.isLot (sells : Sells lot.toLot start calls) :
    LotIs lot.pair lot.id (rowAfter lot.row (sellsOf lot.id calls))
      (deskAfterSells start calls).trades := by
  induction calls with
  | nil => exact sells
  | cons call earlier inductionHypothesis =>
    obtain ⟨before, ⟨row, found, isOpen⟩, runs⟩ := sells
    have isLot := inductionHypothesis before
    obtain rfl := Option.some.inj (isLot.found.symm.trans found)
    have after := SellCall.sold runs isLot isOpen
    unfold sellsOf at after ⊢
    rw [List.filterMap_cons]
    cases sold : call.sell lot.id with
    | none =>
      rw [sold] at after
      exact after
    | some sell =>
      rw [sold] at after
      exact after

theorem Sells.isOpen (sells : Sells lot.toLot start calls) {last : Sell} {earlier : List Sell}
    (isLast : sellsOf lot.id calls = last :: earlier) : (rowAfter lot.row earlier).IsOpen := by
  induction calls with
  | nil => cases isLast
  | cons call before inductionHypothesis =>
    obtain ⟨sellsBefore, ⟨row, found, isOpen⟩, -⟩ := sells
    unfold sellsOf at isLast
    rw [List.filterMap_cons] at isLast
    cases sold : call.sell lot.id with
    | none =>
      rw [sold] at isLast
      exact inductionHypothesis sellsBefore isLast
    | some sell =>
      rw [sold] at isLast
      obtain ⟨rfl, rfl⟩ := List.cons.inj isLast
      obtain rfl := Option.some.inj (sellsBefore.isLot.found.symm.trans found)
      exact isOpen

end Calls

section Example

private def freshWif : FreshLot where
  toLot := wifLot
  unskimmed := rfl
  large := by decide +kernel

private def wifSystemOf (desk : Desk) (amount : ℚ) (partialSkim : Bool) :
    System venue SwapResult :=
  .solo desk (executeJupiterSwap exampleSettings (exitRequest exampleSettings "WIFUSDT" amount)
    { skipEntryGuard := true, partialSkim := partialSkim })

private def wifCall (desk : Desk) (amount : ℚ) (partialSkim : Bool) (turns : List (Turn venue)) :
    SellCall where
  settings := exampleSettings
  request := exitRequest exampleSettings "WIFUSDT" amount
  options := { skipEntryGuard := true, partialSkim := partialSkim }
  moment := ((wifSystemOf desk amount partialSkim).run turns).moment
  isSell := rfl

private theorem wifCall_runsFrom {desk : Desk} {amount : ℚ} {partialSkim : Bool}
    {turns : List (Turn venue)}
    (ended : (((wifSystemOf desk amount partialSkim).run turns).calls[0]?.bind result?).isSome)
    (undisturbed : ∀ step ∈ (wifSystemOf desk amount partialSkim).steps turns,
      Undisturbed "WIF/USDT" step) :
    (wifCall desk amount partialSkim turns).RunsFrom "WIF/USDT" desk :=
  ⟨wifSystemOf desk amount partialSkim, turns, rfl, rfl, ended, undisturbed⟩

/-- A sell of some tokens at 1.25 dollars each. -/
private def wifSell (desk : Desk) (amount : ℚ) (partialSkim : Bool) (outAmount : ℕ) : SellCall :=
  wifCall desk amount partialSkim (marketTurns 100 (5 / 4) outAmount)

private def wholeSale : SellCall := wifSell wifDesk 100 false 125000000

private def firstSkim : SellCall := wifSell wifDesk 20 true 25000000

private def lastSale : SellCall := wifSell firstSkim.moment.state 80 false 100000000

end Example

end GdslExchange.Jupiter
