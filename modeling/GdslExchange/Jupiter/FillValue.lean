/-
This file settles when a buy is booked in USD. The amounts of the order go into the row as they
are, in units of the token that was spent, so the row is right where such a unit is a dollar and
the price of the fill is not replaced by the mark.
-/

import GdslExchange.Async.Trace
import GdslExchange.Jupiter.SellAccounting

namespace GdslExchange.Jupiter

open Async (Delivery Stored)
open Async.Program
open Numeric

/-! ### The row that a call writes -/

def writesRow : Op → Bool
  | .createTrade _ => true
  | .updateTrade _ _ => true
  | _ => false

/-- The first row that a call writes: the booking of its swap. What follows is the merge. -/
def firstWrite {Value : Type} (fates : (op : Op) → Fate op) (call : Call Value) (desk : Desk) :
    Option Op :=
  (call.trace fates desk).find? writesRow

/-- How a buy is booked at a price, beside the OPEN row that is found. -/
def buyWrite (pair : String) (swap : Swap) (price : ℚ) : Option (Stored Trade) → Op
  | none => .createTrade (newTrade pair swap price)
  | some existing => .updateTrade existing.id (buyPatch existing.row swap.alloc price)

/-- The price that Jupiter gives a mint, where it gives one. -/
def markOf (fates : (op : Op) → Fate op) (mint : String) : Option ℚ :=
  match fates (.fetchJupiterPrice mint) with
  | .ok mark => mark
  | .error _ => none

section Run

variable {fates : (op : Op) → Fate op} {desk : Desk} {settings : Settings}
  {request : SwapRequest} {options : ExecuteOptions}

theorem silent_prepareSwap :
    (prepareSwap settings request options).Only fun op => writesRow op = false := by
  refine only_prepareSwap.mono fun op preparing => ?_
  cases op with
  | createTrade row => exact preparing.elim
  | updateTrade id patch => exact preparing.elim
  | _ => rfl

theorem desk_prepareSwap (settings : Settings) (request : SwapRequest)
    (options : ExecuteOptions) :
    ((prepareSwap settings request options).exec fates desk).1 = desk := by
  refine @exec_keeps venue _ fates Preparing (fun reached => reached = desk) ?_ _ only_prepareSwap
    desk rfl
  rintro op reached preparing rfl
  cases op <;> first | rfl | exact preparing.elim

theorem silent_submitSwap (signed : SignedTransaction) :
    (submitSwap signed).Only fun op => writesRow op = false :=
  only_then rfl fun _ => only_ofExcept

theorem silent_reconcile (mint : String) (fillPrice : ℚ) :
    (reconcileFillPriceWithMark mint fillPrice).Only fun op => writesRow op = false := by
  unfold reconcileFillPriceWithMark
  split
  · trivial
  · exact only_recover (only_then rfl fun _ => trivial) fun _ => trivial

theorem silent_guardBuy (pair : String) :
    (guardBuy pair).Only fun op => writesRow op = false :=
  only_then rfl fun _ => only_throwIf

theorem exec_submitSwap (signed : SignedTransaction) : ∃ submitted,
    (submitSwap signed).exec fates desk = (desk, submitted) := by
  have asked : (await (.submitJupiterExecute signed)).exec fates desk =
      (desk, fates (.submitJupiterExecute signed)) := exec_perform _ _
  unfold submitSwap
  cases answer : fates (.submitJupiterExecute signed) with
  | error failure =>
    rw [answer] at asked
    exact ⟨_, exec_bind_error asked⟩
  | ok reply =>
    rw [answer] at asked
    rw [exec_bind_ok asked]
    cases executedSignature reply <;> exact ⟨_, rfl⟩

theorem exec_reconcile (mint : String) (swap : Swap) :
    (reconcileFillPriceWithMark mint swap.price).exec fates desk =
      (desk, .ok (bookedPrice swap (markOf fates mint))) := by
  unfold reconcileFillPriceWithMark bookedPrice markOf
  split
  · rfl
  · rw [exec_recover]
    have asked : (await (.fetchJupiterPrice mint)).exec fates desk =
        (desk, fates (.fetchJupiterPrice mint)) := exec_perform _ _
    cases answer : fates (.fetchJupiterPrice mint) with
    | error failure =>
      rw [answer] at asked
      rw [exec_bind_error asked]
      rfl
    | ok mark =>
      rw [answer] at asked
      rw [exec_bind_ok asked]
      rfl

theorem trades_guardBuy (pair : String) :
    ((guardBuy pair).exec fates desk).1.trades = desk.trades := by
  have entered : (await (.enterBuy pair)).exec fates desk =
      if desk.buying pair (fates (.enterBuy pair)) then (desk, .ok false)
      else (desk.flight pair (some (fates (.enterBuy pair))), .ok true) := exec_perform _ _
  unfold guardBuy
  split at entered
  · rw [exec_bind_ok entered]
    rfl
  · rw [exec_bind_ok entered]
    rfl

theorem silent_await {op : Op} (silent : writesRow op = false) :
    (await op).Only fun op => writesRow op = false := only_perform silent

theorem firstWrite_book {pair : String} {swap : Swap} {price : ℚ} {write : Op}
    (isBuy : swap.side = .buy) (isWrite : firstWrite fates (book pair swap price) desk = some write) :
    write = buyWrite pair swap price (openRowsOf pair desk.trades).head? := by
  have kept := @trades_guardBuy fates desk pair
  unfold firstWrite book at isWrite
  rw [isBuy] at isWrite
  rw [find?_trace_bind (silent_guardBuy pair)] at isWrite
  rcases guarded : (guardBuy pair).exec fates desk with ⟨reached, failure | _⟩
  · rw [guarded] at isWrite
    cases isWrite
  · rw [guarded] at isWrite kept
    dsimp only at isWrite kept
    rw [find?_trace_andFinally (@silent_await (.leaveBuy pair) rfl)] at isWrite
    unfold bookBuy at isWrite
    rw [find?_trace_bind (@silent_await (.findOpenTrade pair) rfl)] at isWrite
    have looked : (await (.findOpenTrade pair)).exec fates reached =
        (reached, (fates (.findOpenTrade pair)).reply (openRowsOf pair reached.trades).head?) :=
      exec_perform _ _
    rw [looked, kept] at isWrite
    cases fate : (fates (.findOpenTrade pair) : Delivery) with
    | refused message =>
      rw [fate] at isWrite
      cases isWrite
    | lost message =>
      rw [fate] at isWrite
      cases isWrite
    | answered =>
      rw [fate] at isWrite
      cases found : (openRowsOf pair desk.trades).head? with
      | none =>
        rw [found] at isWrite
        exact (Option.some.inj isWrite).symm
      | some existing =>
        rw [found] at isWrite
        exact (Option.some.inj isWrite).symm

/-- The first row that a buy writes books its swap at the price of the fill, unless that price is
replaced by the mark. -/
theorem firstWrite_execute {prepared : Prepared} {write : Op}
    (isBuy : request.side = .buy)
    (isPrepared : (prepareSwap settings request options).exec fates desk = (desk, .ok prepared))
    (isWrite : firstWrite fates (executeJupiterSwap settings request options) desk = some write) :
    write = buyWrite prepared.token.pair prepared.signed.swap
      (bookedPrice prepared.signed.swap (markOf fates prepared.token.mint))
      (openRowsOf prepared.token.pair desk.trades).head? := by
  have side : prepared.signed.swap.side = .buy :=
    (returns_prepareSwap.exec isPrepared).1.trans isBuy
  unfold firstWrite executeJupiterSwap at isWrite
  rw [find?_trace_bind silent_prepareSwap, isPrepared] at isWrite
  dsimp only at isWrite
  obtain ⟨submitted, isSubmitted⟩ := @exec_submitSwap fates desk prepared.signed
  rw [find?_trace_bind (silent_submitSwap prepared.signed), isSubmitted] at isWrite
  cases submitted with
  | error failure => cases isWrite
  | ok signature =>
    dsimp only at isWrite
    rw [find?_trace_bind (silent_reconcile _ _), exec_reconcile] at isWrite
    dsimp only at isWrite
    have ensured : (await .ensureJupiterStrategyId).exec fates desk =
        (desk, (fates .ensureJupiterStrategyId).reply ()) := exec_perform _ _
    rw [find?_trace_bind (@silent_await .ensureJupiterStrategyId rfl), ensured] at isWrite
    cases fate : (fates .ensureJupiterStrategyId : Delivery) with
    | refused message =>
      rw [fate] at isWrite
      cases isWrite
    | lost message =>
      rw [fate] at isWrite
      cases isWrite
    | answered =>
      rw [fate] at isWrite
      have returns (trade : RecordedTrade) : (pure ⟨signature, request.side,
          prepared.token.binanceSymbol, prepared.amountIn, prepared.expectedOut, trade⟩ :
            Call SwapResult).Only fun op => writesRow op = false := trivial
      exact @firstWrite_book fates desk _ _ _ write side
        ((find?_trace_bind_first returns).symm.trans isWrite)

end Run

/-! ### The value of a fill -/

namespace Swap

/-- The USD value of the tokens spent is a whole number of hundred-millionths, and the nearest one
to the number of those tokens. -/
structure WorthItself (swap : Swap) (usdPerUnit : ℚ) : Prop where
  whole : ∃ units : ℤ, swap.inAmount * usdPerUnit * 10 ^ 8 = units
  above : swap.inAmount * 10 ^ 8 - 1 / 2 < swap.inAmount * usdPerUnit * 10 ^ 8
  below : swap.inAmount * usdPerUnit * 10 ^ 8 ≤ swap.inAmount * 10 ^ 8 + 1 / 2

def Implausible (fillPrice : ℚ) (mark : Option ℚ) : Prop :=
  ∃ value, mark = some value ∧ 0 < value ∧ (fillPrice / value > 4 ∨ fillPrice / value < 1 / 4)

/-- Something is spent, a dollar a unit, and its price is near the mark. Or no more than dust is
received, and the mark makes it worth what was spent. -/
def PricedInUsd (swap : Swap) (usdPerUnit : ℚ) (mark : Option ℚ) : Prop :=
  0 < swap.inAmount ∧
    if swap.outAmount > 1 / 10 ^ 18 then
      usdPerUnit = 1 ∧ ¬ Implausible (swap.inAmount / swap.outAmount) mark
    else ∃ value, mark = some value ∧ value * swap.outAmount = swap.inAmount * usdPerUnit

variable {swap : Swap} {usdPerUnit : ℚ}

theorem alloc_eq_iff (isBuy : swap.side = .buy) :
    swap.alloc = swap.inAmount * usdPerUnit ↔ swap.WorthItself usdPerUnit := by
  have scale : (0 : ℚ) < 10 ^ 8 := by positivity
  have isAlloc : swap.alloc = Numeric.round (swap.inAmount * 10 ^ 8) / 10 ^ 8 := by
    unfold alloc roundTo
    rw [isBuy]
  rw [isAlloc, div_eq_iff scale.ne']
  constructor
  · intro same
    have above := lt_round (swap.inAmount * 10 ^ 8)
    have below := Numeric.round_le (swap.inAmount * 10 ^ 8)
    rw [same] at above below
    exact ⟨⟨_, same.symm⟩, above, below⟩
  · rintro ⟨⟨units, isUnits⟩, above, below⟩
    rw [isUnits] at above below ⊢
    have rounded : Numeric.round (swap.inAmount * 10 ^ 8) = units := by
      unfold Numeric.round
      rw [Int.floor_eq_iff]
      constructor <;> linarith
    rw [rounded]

/-- The value of something spent is between a half and three halves of it. -/
theorem WorthItself.near (worth : swap.WorthItself usdPerUnit) (some : 0 < swap.inAmount)
    (priceable : 0 < usdPerUnit) : 0 < swap.inAmount * usdPerUnit ∧
      swap.inAmount * usdPerUnit ≤ 2 * swap.inAmount ∧
      2 * swap.inAmount ≤ 3 * (swap.inAmount * usdPerUnit) := by
  obtain ⟨⟨units, isUnits⟩, above, below⟩ := worth
  have value : 0 < swap.inAmount * usdPerUnit := mul_pos some priceable
  have positive : (0 : ℚ) < units := by
    rw [← isUnits]
    positivity
  have atLeast : (1 : ℚ) ≤ units := by exact_mod_cast positive
  refine ⟨value, ?_, ?_⟩ <;> linarith

theorem clampToMark_cases (fillPrice : ℚ) (mark : Option ℚ) :
    ¬ Implausible fillPrice mark ∧ clampToMark fillPrice mark = fillPrice ∨
      ∃ value, mark = some value ∧ 0 < value ∧
        (fillPrice / value > 4 ∨ fillPrice / value < 1 / 4) ∧
        clampToMark fillPrice mark = value := by
  cases mark with
  | none =>
    refine .inl ⟨?_, rfl⟩
    rintro ⟨value, isMark, -⟩
    cases isMark
  | some value =>
    unfold clampToMark Implausible
    dsimp only
    by_cases none : value ≤ 0
    · rw [if_pos none]
      refine .inl ⟨?_, rfl⟩
      rintro ⟨other, isMark, positive, -⟩
      obtain rfl := Option.some.inj isMark
      exact absurd none (not_le.mpr positive)
    · rw [if_neg none]
      by_cases far : fillPrice / value > 4 ∨ fillPrice / value < 1 / 4
      · rw [if_pos far]
        exact .inr ⟨value, rfl, not_le.mp none, far, rfl⟩
      · rw [if_neg far]
        refine .inl ⟨?_, rfl⟩
        rintro ⟨other, isMark, -, implausible⟩
        obtain rfl := Option.some.inj isMark
        exact far implausible

theorem price_buy (isBuy : swap.side = .buy) (some : 0 < swap.inAmount) :
    0 < swap.price ∧ swap.price =
      if swap.outAmount > 1 / 10 ^ 18 then swap.inAmount / swap.outAmount else swap.inAmount := by
  have positive : 0 < if swap.outAmount > 1 / 10 ^ 18 then swap.inAmount / swap.outAmount
      else swap.inAmount := by
    split
    · next notDust =>
      have out : 0 < swap.outAmount := lt_trans (by norm_num) notDust
      positivity
    · exact some
  have isPrice : swap.price =
      if swap.outAmount > 1 / 10 ^ 18 then swap.inAmount / swap.outAmount else swap.inAmount := by
    unfold price
    rw [isBuy]
    exact if_pos positive
  exact ⟨isPrice ▸ positive, isPrice⟩

theorem priced_iff (isBuy : swap.side = .buy) (spent : 0 ≤ swap.inAmount)
    (received : 0 ≤ swap.outAmount) (priceable : 0 < usdPerUnit)
    (worth : swap.WorthItself usdPerUnit) (mark : Option ℚ) :
    (0 < bookedPrice swap mark ∧
      swap.inAmount * usdPerUnit / bookedPrice swap mark = swap.outAmount) ↔
      swap.PricedInUsd usdPerUnit mark := by
  unfold PricedInUsd
  obtain nothing | some := spent.eq_or_lt
  · have free : swap.price = 0 := by
      unfold price
      rw [isBuy, ← nothing]
      simp
    rw [bookedPrice, free, ← nothing]
    simp
  obtain ⟨value, atMost, atLeast⟩ := worth.near some priceable
  obtain ⟨positive, isPrice⟩ := price_buy isBuy some
  have booked : bookedPrice swap mark = clampToMark swap.price mark :=
    if_neg (not_le.mpr positive)
  rw [booked]
  by_cases notDust : swap.outAmount > 1 / 10 ^ 18
  · have out : 0 < swap.outAmount := lt_trans (by norm_num) notDust
    rw [if_pos notDust] at isPrice
    rw [if_pos notDust, ← isPrice]
    obtain ⟨believable, kept⟩ | ⟨mark, rfl, someMark, far, clamped⟩ :=
      clampToMark_cases swap.price mark
    · have scaled : swap.inAmount * usdPerUnit / swap.price = usdPerUnit * swap.outAmount := by
        rw [isPrice]
        field_simp
      rw [kept, scaled, mul_eq_right₀ out.ne']
      exact ⟨fun dollar => ⟨some, dollar.2, believable⟩, fun priced => ⟨positive, priced.2.1⟩⟩
    · rw [clamped]
      refine iff_of_false (fun priced => ?_) fun priced => priced.2.2 ⟨mark, rfl, someMark, far⟩
      have isValue := (div_eq_iff someMark.ne').mp priced.2
      have ratio : swap.price / mark = swap.inAmount / (swap.inAmount * usdPerUnit) := by
        rw [isPrice, isValue]
        field_simp
      rw [ratio, gt_iff_lt, lt_div_iff₀ value, div_lt_iff₀ value] at far
      obtain far | far := far <;> linarith
  · have dust : swap.outAmount ≤ 1 / 10 ^ 18 := not_lt.mp notDust
    rw [if_neg notDust] at isPrice
    rw [if_neg notDust]
    obtain ⟨believable, kept⟩ | ⟨mark, rfl, someMark, far, clamped⟩ :=
      clampToMark_cases swap.price mark
    · rw [kept, isPrice]
      refine iff_of_false ?_ ?_
      · rintro ⟨-, same⟩
        rw [mul_div_cancel_left₀ _ some.ne'] at same
        have tiny : swap.inAmount * usdPerUnit ≤ swap.inAmount * (1 / 10 ^ 18) :=
          mul_le_mul_of_nonneg_left (same.trans_le dust) spent
        linarith
      · rintro ⟨-, mark, rfl, isValue⟩
        have someMark : 0 < mark := pos_of_mul_pos_left (isValue ▸ value) received
        have huge : mark * swap.outAmount ≤ mark * (1 / 10 ^ 18) :=
          mul_le_mul_of_nonneg_left dust someMark.le
        refine believable ⟨mark, rfl, someMark, .inr ?_⟩
        rw [isPrice, div_lt_iff₀ someMark]
        linarith
    · rw [clamped, div_eq_iff someMark.ne']
      constructor
      · rintro ⟨-, isValue⟩
        exact ⟨some, mark, rfl, by linarith⟩
      · rintro ⟨-, other, isMark, isValue⟩
        obtain rfl := Option.some.inj isMark
        exact ⟨someMark, by linarith⟩

end Swap

/-! ### When a buy is booked in USD -/

/-- The cost that a row carries. -/
def Trade.cost (trade : Trade) : ℚ := max 0 trade.alloc

/-- A new row carries the USD value of what was spent, and stands for what was received. A row that
is added to costs that much more. -/
def WritesInUsd (desk : Desk) (swap : Swap) (usdPerUnit : ℚ) : Op → Prop
  | .createTrade row => row.alloc = swap.inAmount * usdPerUnit ∧
      0 < row.entryPrice ∧ row.alloc / row.entryPrice = swap.outAmount
  | .updateTrade id patch => ∀ row, desk.trades[id]? = some row →
      (patch.apply row).cost - row.cost = swap.inAmount * usdPerUnit
  | _ => True

section Booking

variable (fates : (op : Op) → Fate op) (desk : Desk) (settings : Settings)
  (request : SwapRequest) (options : ExecuteOptions)

/-- The call pays with a token that has a price, prepares its swap and writes a row. -/
structure Writes (spend : SpendMint) (prepared : Prepared) (write : Op) : Prop where
  spends : (resolveSpendMint request).exec fates desk = (desk, .ok spend)
  priceable : 0 < spend.usdPerUnit
  prepares : (prepareSwap settings request options).exec fates desk = (desk, .ok prepared)
  writes : firstWrite fates (executeJupiterSwap settings request options) desk = some write

/-- Whatever row a buy writes is in USD. -/
def BooksInUsd : Prop :=
  ∀ spend prepared write, Writes fates desk settings request options spend prepared write →
    WritesInUsd desk prepared.signed.swap spend.usdPerUnit write

/-- What was spent is worth itself, and a new row is priced in USD. -/
def FillsInUsd : Prop :=
  ∀ spend prepared write, Writes fates desk settings request options spend prepared write →
    prepared.signed.swap.WorthItself spend.usdPerUnit ∧
      (openRowsOf prepared.token.pair desk.trades = [] →
        prepared.signed.swap.PricedInUsd spend.usdPerUnit (markOf fates prepared.token.mint))

variable {fates desk settings request options}

theorem alloc_newTrade {pair : String} {swap : Swap} {price : ℚ} (nonneg : 0 ≤ swap.alloc) :
    (newTrade pair swap price).alloc = swap.alloc := by
  unfold newTrade Trade.alloc
  dsimp only
  split
  · rfl
  · next none => exact le_antisymm nonneg (not_lt.mp none)

theorem cost_buyPatch {row : Trade} {safeAlloc safeEntry : ℚ} (nonneg : 0 ≤ safeAlloc) :
    ((buyPatch row safeAlloc safeEntry).apply row).cost - row.cost = safeAlloc := by
  have total : 0 ≤ max 0 row.alloc + safeAlloc := add_nonneg (le_max_left _ _) nonneg
  show max 0 (max 0 row.alloc + safeAlloc) - max 0 row.alloc = safeAlloc
  rw [max_eq_right total]
  ring

theorem returns_received : (prepareSwap settings request options).Returns
    fun prepared => 0 ≤ prepared.signed.swap.outAmount := by
  refine returns_bind fun _ => returns_bind fun _ => returns_bind fun _ => returns_bind fun _ =>
    returns_bind fun _ => returns_bind fun _ => returns_bind fun _ => returns_bind fun _ =>
    returns_bind fun _ => returns_bind fun _ => returns_bind fun _ => returns_bind fun _ =>
    returns_bind fun _ => returns_bind fun _ => returns_bind fun _ => ?_
  exact div_nonneg (Nat.cast_nonneg _) (pow_nonneg (by norm_num) _)

/-- A booking is in USD where the allocation is worth what was spent, and for a new row its price
what was received. -/
theorem writesInUsd_buyWrite {pair : String} {swap : Swap} {usdPerUnit : ℚ} {mark : Option ℚ}
    (isBuy : swap.side = .buy) (spent : 0 ≤ swap.inAmount) (received : 0 ≤ swap.outAmount)
    (priceable : 0 < usdPerUnit) :
    WritesInUsd desk swap usdPerUnit (buyWrite pair swap (bookedPrice swap mark)
      (openRowsOf pair desk.trades).head?) ↔
      swap.WorthItself usdPerUnit ∧
        (openRowsOf pair desk.trades = [] → swap.PricedInUsd usdPerUnit mark) := by
  have nonneg : 0 ≤ swap.alloc := by
    unfold Swap.alloc roundTo
    rw [isBuy]
    exact div_nonneg (by exact_mod_cast round_nonneg (by positivity)) (by positivity)
  rw [← Swap.alloc_eq_iff isBuy]
  cases found : openRowsOf pair desk.trades with
  | nil =>
    show (newTrade pair swap _).alloc = _ ∧ _ ∧ _ ↔ _
    rw [alloc_newTrade nonneg]
    refine and_congr_right fun worth => ?_
    have priced := Swap.priced_iff isBuy spent received priceable
      ((Swap.alloc_eq_iff isBuy).mp worth) mark
    rw [worth]
    exact priced.trans ⟨fun inUsd _ => inUsd, fun inUsd => inUsd rfl⟩
  | cons existing rest =>
    have isRow := (mem_openRowsOf.mp (found ▸ List.mem_cons_self)).1
    have only : (swap.alloc = swap.inAmount * usdPerUnit ∧
        (existing :: rest = [] → swap.PricedInUsd usdPerUnit mark)) ↔
          swap.alloc = swap.inAmount * usdPerUnit := and_iff_left nofun
    rw [only]
    constructor
    · intro inUsd
      exact (cost_buyPatch nonneg).symm.trans (inUsd existing.row isRow)
    · intro worth row isStored
      obtain rfl := Option.some.inj (isRow.symm.trans isStored)
      exact (cost_buyPatch nonneg).trans worth

end Booking

/-! ### A buy with SOL -/

/-- SOL at 150 dollars and WIF at two. -/
def solMarket : (op : Op) → Fate op
  | .fetchJupiterPrice mint => .ok (some (if mint = solNativeMint then 150 else 2))
  | op => market 1000 2 75000000 op

def solBuy (spendAsset : SpendAsset) (amount : ℚ) : SwapRequest where
  side := .buy
  binanceSymbol := "WIFUSDT"
  amount := amount
  spendAsset := some spendAsset

def solSettings : Settings := ⟨true, true, 150⟩

end GdslExchange.Jupiter
