/-
This file compares what "Sell now" books with the lots it sold, for the personal
wallet and for Binance.

Both sell the quantity of all OPEN rows of a symbol, write the profit of the
oldest row and cancel the others, whatever was filled. So the profit of every
other lot is lost, and so is the cost of what was not sold. The books are right
exactly when the fill covers the rows and the unwritten profits add to nothing.
-/

import GdslExchange.Jupiter.Merging
import GdslExchange.Numeric.Fifo
import GdslExchange.Spot.Binance
import GdslExchange.Text.Upper

namespace GdslExchange.Spot

open Async (Delivery Stored)
open Async.Program
open Jupiter (Side Trade TradePatch TradeStatus rows openRowsOf mem_openRowsOf cancelWhere
  getElem?_cancelWhere lotQuantity roundTripRealizedPnl)
open Numeric
open Text (toUpper_toUpper toUpper_append)

/-! ### The two sells -/

/-- The two books that sell a symbol in one order. -/
inductive Path where
  | personalWallet
  | binanceSpot
deriving DecidableEq

namespace Path

def sell (settings : RouterSettings) (symbol : String) : Path → Call RecordedTrade
  | personalWallet => sellAggregatedOpenPosition symbol
  | binanceSpot => sellBinanceOpenPosition settings symbol

/-- The sell up to the fill. -/
def fill (settings : RouterSettings) (symbol : String) : Path → Call Fill
  | personalWallet => do
    let plan ← planAggregatedSell symbol
    swapPersonal plan.request
  | binanceSpot => do
    let plan ← planOpenPositionSell symbol
    fillBinanceSpot settings plan.input

end Path

/-! ### Symbols -/

theorem baseAsset_usdt (symbol : String) :
    baseAsset (symbol.toUpper ++ "USDT").toUpper = symbol.toUpper := by
  have usdt : "USDT".toUpper = "USDT" := by decide +kernel
  have four : "USDT".toList.length = 4 := by decide +kernel
  rw [toUpper_append, toUpper_toUpper, usdt]
  unfold baseAsset
  rw [String.toList_append, if_pos (List.suffix_append _ _), List.length_append, four,
    Nat.add_sub_cancel, List.take_left, String.ofList_toList]

/-! ### What was sold -/

def rowQuantity (stored : Stored Trade) : ℚ :=
  if stored.row.Counted then stored.row.alloc / stored.row.entryPrice else 0

def rowCost (stored : Stored Trade) : ℚ := max 0 stored.row.alloc

/-- What a sell took from each row, the oldest first. -/
def lotsSold (lot : List (Stored Trade)) (fill : Fill) : List (Stored Trade × ℚ) :=
  consume rowQuantity lot (max 0 fill.quantity)

/-- Proceeds minus cost of what was taken from a row, to eight places. -/
def profitOf (price : ℚ) (sold : Stored Trade × ℚ) : ℚ :=
  roundTo 8 (sold.2 * price - sold.2 * sold.1.row.entryPrice)

def costLeft (sold : Stored Trade × ℚ) : ℚ :=
  rowCost sold.1 - sold.2 * sold.1.row.entryPrice

/-- The profit on a row that was OPEN and is now CLOSED. -/
def closedPnl (after : List Trade) (stored : Stored Trade) : ℚ :=
  match after[stored.id]? with
  | some row => if row.status = .closed then row.banked else 0
  | none => 0

/-- The rows closed by a sell carry the profit of the lots it sold, and the OPEN rows the cost
of what it did not sell. -/
structure SellBooked (pair : String) (fill : Fill) (before after : List Trade) : Prop where
  profit : ((openRowsOf pair before).map (closedPnl after)).sum =
    ((lotsSold (openRowsOf pair before) fill).map (profitOf fill.price)).sum
  cost : ((openRowsOf pair after).map rowCost).sum =
    ((lotsSold (openRowsOf pair before) fill).map costLeft).sum

/-- The rows whose profit is written nowhere: all but the oldest, and the oldest as well if no
price is known. -/
def unwritten (lot : List (Stored Trade)) (price : ℚ) : List (Stored Trade) :=
  if 0 < price then lot.tail else lot

/-- The fill covers the rows, and the profits that are written nowhere add to nothing. -/
structure SoldWhole (lot : List (Stored Trade)) (fill : Fill) : Prop where
  priced : ∀ stored ∈ lot, 0 < stored.row.alloc → 0 < stored.row.entryPrice
  covered : lotQuantity lot ≤ max 0 fill.quantity
  nothing : ((unwritten lot fill.price).map fun stored =>
    profitOf fill.price (stored, rowQuantity stored)).sum = 0

/-! ### Lots that are sold whole -/

section Lots

variable {lot : List (Stored Trade)} {fill : Fill}

theorem rowQuantity_nonneg (stored : Stored Trade) : 0 ≤ rowQuantity stored := by
  unfold rowQuantity
  split
  · exact div_nonneg (‹stored.row.Counted›).1.le (‹stored.row.Counted›).2.le
  · exact le_rfl

variable {sold : Stored Trade × ℚ}

theorem taken_eq_zero (member : sold ∈ lotsSold lot fill) (uncounted : ¬ sold.1.row.Counted) :
    sold.2 = 0 := by
  have taken := consume_le member
  unfold rowQuantity at taken
  rw [if_neg uncounted] at taken
  exact taken.antisymm
    (consume_nonneg (fun stored _ => rowQuantity_nonneg stored) (le_max_left _ _) member)

theorem costLeft_nonneg (member : sold ∈ lotsSold lot fill) :
    0 ≤ costLeft sold := by
  unfold costLeft rowCost
  by_cases counted : sold.1.row.Counted
  · have taken := consume_le member
    unfold rowQuantity at taken
    rw [if_pos counted, le_div_iff₀ counted.2] at taken
    exact sub_nonneg.mpr (taken.trans (le_max_right _ _))
  · rw [taken_eq_zero member counted, zero_mul, sub_zero]
    exact le_max_left _ _

theorem costLeft_eq_zero_iff (member : sold ∈ lotsSold lot fill) :
    costLeft sold = 0 ↔ (0 < sold.1.row.alloc → 0 < sold.1.row.entryPrice) ∧
      sold.2 = rowQuantity sold.1 := by
  unfold costLeft rowCost rowQuantity
  by_cases counted : sold.1.row.Counted
  · rw [if_pos counted, max_eq_right counted.1.le, sub_eq_zero, eq_div_iff counted.2.ne',
      eq_comm]
    exact ⟨fun all => ⟨fun _ => counted.2, all⟩, And.right⟩
  · rw [if_neg counted, taken_eq_zero member counted, zero_mul, sub_zero, max_eq_left_iff,
      ← not_lt]
    constructor
    · exact fun free => ⟨fun costly => absurd costly free, rfl⟩
    · exact fun priced costly => counted ⟨costly, priced.1 costly⟩

theorem sum_costLeft_eq_zero_iff : ((lotsSold lot fill).map costLeft).sum = 0 ↔
    (∀ stored ∈ lot, 0 < stored.row.alloc → 0 < stored.row.entryPrice) ∧
      lotQuantity lot ≤ max 0 fill.quantity := by
  have covers := @consume_all_iff _ _ _ _ _ rowQuantity lot (max 0 fill.quantity)
    (fun stored _ => rowQuantity_nonneg stored) (le_max_left _ _)
  have isQuantity : (lot.map rowQuantity).sum = lotQuantity lot := rfl
  rw [isQuantity] at covers
  rw [← covers]
  constructor
  · intro nothing
    have each : ∀ sold ∈ lotsSold lot fill, costLeft sold = 0 := by
      intro sold member
      refine List.all_zero_of_le_zero_le_of_sum_eq_zero (fun amount inAmounts => ?_) nothing
        (List.mem_map_of_mem member)
      obtain ⟨other, inSold, rfl⟩ := List.mem_map.mp inAmounts
      exact costLeft_nonneg inSold
    have taken : ∀ sold ∈ lotsSold lot fill, sold.2 = rowQuantity sold.1 :=
      fun sold member => ((costLeft_eq_zero_iff member).mp (each sold member)).2
    refine ⟨fun stored member => ?_, taken⟩
    have inSold : (stored, rowQuantity stored) ∈ lotsSold lot fill := by
      unfold lotsSold
      rw [consume_eq_of_le (fun other _ => rowQuantity_nonneg other) (covers.mp taken)]
      exact List.mem_map_of_mem member
    exact ((costLeft_eq_zero_iff inSold).mp (each _ inSold)).1
  · rintro ⟨priced, taken⟩
    refine List.sum_eq_zero fun amount inAmounts => ?_
    obtain ⟨sold, member, rfl⟩ := List.mem_map.mp inAmounts
    exact (costLeft_eq_zero_iff member).mpr
      ⟨priced sold.1 (mem_of_mem_consume member), taken sold member⟩

theorem profitOf_whole {stored : Stored Trade} {price : ℚ} (known : 0 < price) :
    profitOf price (stored, rowQuantity stored) =
      roundTripRealizedPnl stored.row.alloc stored.row.entryPrice price := by
  unfold profitOf rowQuantity roundTripRealizedPnl
  split_ifs with counted none none
  · rcases none with free | unpriced | unknown
    · exact absurd counted.1 free.not_gt
    · exact absurd counted.2 unpriced.not_gt
    · exact absurd known unknown.not_gt
  · have entry := counted.2.ne'
    congr 1
    field_simp
  · rw [zero_mul, zero_mul, sub_zero, roundTo_zero]
  · rw [not_or, not_or, not_le, not_le] at none
    exact absurd ⟨none.1, none.2.1⟩ counted

theorem roundTripRealizedPnl_unknown {alloc entry price : ℚ} (unknown : ¬ 0 < price) :
    roundTripRealizedPnl alloc entry price = 0 :=
  if_pos (Or.inr (Or.inr (not_lt.mp unknown)))

theorem soldWhole_iff {oldest : Stored Trade} {siblings : List (Stored Trade)} :
    SoldWhole (oldest :: siblings) fill ↔
      roundTripRealizedPnl oldest.row.alloc oldest.row.entryPrice fill.price =
        ((lotsSold (oldest :: siblings) fill).map (profitOf fill.price)).sum ∧
      0 = ((lotsSold (oldest :: siblings) fill).map costLeft).sum := by
  have whole : lotQuantity (oldest :: siblings) ≤ max 0 fill.quantity →
      ((lotsSold (oldest :: siblings) fill).map (profitOf fill.price)).sum =
        profitOf fill.price (oldest, rowQuantity oldest) +
          (siblings.map fun stored => profitOf fill.price (stored, rowQuantity stored)).sum := by
    intro covered
    unfold lotsSold
    rw [consume_eq_of_le (fun stored _ => rowQuantity_nonneg stored) covered, List.map_map]
    rfl
  have booked : lotQuantity (oldest :: siblings) ≤ max 0 fill.quantity →
      (roundTripRealizedPnl oldest.row.alloc oldest.row.entryPrice fill.price =
        ((lotsSold (oldest :: siblings) fill).map (profitOf fill.price)).sum ↔
      ((unwritten (oldest :: siblings) fill.price).map fun stored =>
        profitOf fill.price (stored, rowQuantity stored)).sum = 0) := by
    intro covered
    rw [whole covered]
    unfold unwritten
    split_ifs with known
    · rw [profitOf_whole known, left_eq_add]
      rfl
    · rw [roundTripRealizedPnl_unknown known, List.map_cons, List.sum_cons, eq_comm]
  rw [@eq_comm ℚ 0, sum_costLeft_eq_zero_iff]
  constructor
  · rintro ⟨priced, covered, nothing⟩
    exact ⟨(booked covered).mpr nothing, priced, covered⟩
  · rintro ⟨profit, priced, covered⟩
    exact ⟨priced, covered, (booked covered).mp profit⟩

end Lots

/-! ### The rows after the sell -/

section Rows

variable {pair : String} {trades : List Trade} {oldest : Stored Trade}
  {siblings : List (Stored Trade)}

def soldBook (oldest : Stored Trade) (siblings : List (Stored Trade)) (price : ℚ)
    (trades : List Trade) : List Trade :=
  cancelWhere (fun stored => stored.id ∈ siblings.map Stored.id)
    (trades.set oldest.id ((closePatch oldest.row price).apply oldest.row))

variable (isLot : openRowsOf pair trades = oldest :: siblings) (price : ℚ)
include isLot

variable {stored : Stored Trade}

theorem mem_lot : stored ∈ oldest :: siblings ↔
    trades[stored.id]? = some stored.row ∧ stored.row.pair = pair ∧ stored.row.IsOpen := by
  rw [← isLot, mem_openRowsOf]

theorem oldest_ne (member : stored ∈ siblings) :
    oldest.id ≠ stored.id := by
  have sorted := Jupiter.openRowsOf_sorted pair trades
  rw [isLot, List.pairwise_cons] at sorted
  exact (sorted.1 stored member).ne

theorem soldBook_oldest : (soldBook oldest siblings price trades)[oldest.id]? =
    some ((closePatch oldest.row price).apply oldest.row) := by
  have found := ((mem_lot isLot).mp List.mem_cons_self).1
  have notSibling : oldest.id ∉ siblings.map Stored.id := by
    intro member
    obtain ⟨sibling, inSiblings, same⟩ := List.mem_map.mp member
    exact oldest_ne isLot inSiblings same.symm
  unfold soldBook
  rw [getElem?_cancelWhere, List.getElem?_set_self (List.getElem?_eq_some_iff.mp found).1,
    Option.map_some, if_neg (by simpa using notSibling)]

theorem soldBook_sibling (member : stored ∈ siblings) :
    (soldBook oldest siblings price trades)[stored.id]? = some stored.row.cancel := by
  have found := ((mem_lot isLot).mp (List.mem_cons_of_mem _ member)).1
  unfold soldBook
  rw [getElem?_cancelWhere, List.getElem?_set_ne (oldest_ne isLot member), found,
    Option.map_some, if_pos (by simpa using ⟨stored, member, rfl⟩)]

theorem openRowsOf_soldBook : openRowsOf pair (soldBook oldest siblings price trades) = [] := by
  refine List.eq_nil_iff_forall_not_mem.mpr fun stored member => ?_
  obtain ⟨found, isPair, isOpen⟩ := mem_openRowsOf.mp member
  by_cases inLot : ∃ sold ∈ oldest :: siblings, sold.id = stored.id
  · obtain ⟨sold, inSold, same⟩ := inLot
    rw [← same] at found
    rcases List.mem_cons.mp inSold with rfl | inSiblings
    · rw [soldBook_oldest isLot price, Option.some.injEq] at found
      rw [← found] at isOpen
      cases isOpen
    · rw [soldBook_sibling isLot price inSiblings, Option.some.injEq] at found
      rw [← found] at isOpen
      cases isOpen
  · push Not at inLot
    unfold soldBook at found
    rw [getElem?_cancelWhere,
      List.getElem?_set_ne (inLot oldest List.mem_cons_self)] at found
    obtain ⟨row, wasRow, isRow⟩ := Option.map_eq_some_iff.mp found
    rw [if_neg] at isRow
    · rw [isRow] at wasRow
      exact inLot stored ((mem_lot isLot).mpr ⟨wasRow, isPair, isOpen⟩) rfl
    · intro cancelled
      obtain ⟨sibling, inSiblings, same⟩ := List.mem_map.mp (of_decide_eq_true cancelled)
      exact inLot sibling (List.mem_cons_of_mem _ inSiblings) same

theorem sum_closedPnl_soldBook :
    ((oldest :: siblings).map (closedPnl (soldBook oldest siblings price trades))).sum =
      roundTripRealizedPnl oldest.row.alloc oldest.row.entryPrice price := by
  have nothing : (siblings.map (closedPnl (soldBook oldest siblings price trades))).sum = 0 := by
    refine List.sum_eq_zero fun amount inAmounts => ?_
    obtain ⟨sibling, member, rfl⟩ := List.mem_map.mp inAmounts
    unfold closedPnl
    rw [soldBook_sibling isLot price member]
    rfl
  rw [List.map_cons, List.sum_cons, nothing, add_zero]
  unfold closedPnl
  rw [soldBook_oldest isLot price]
  rfl

theorem sellBooked_soldBook_iff (fill : Fill) :
    SellBooked pair fill trades (soldBook oldest siblings fill.price trades) ↔
      SoldWhole (oldest :: siblings) fill := by
  have cost : ((openRowsOf pair (soldBook oldest siblings fill.price trades)).map rowCost).sum =
      0 := by
    rw [openRowsOf_soldBook isLot]
    rfl
  rw [soldWhole_iff]
  constructor
  · rintro ⟨profit, left⟩
    rw [isLot, sum_closedPnl_soldBook isLot] at profit
    rw [isLot, cost] at left
    exact ⟨profit, left⟩
  · rintro ⟨profit, left⟩
    refine ⟨?_, ?_⟩
    · rw [isLot, sum_closedPnl_soldBook isLot]
      exact profit
    · rw [isLot, cost]
      exact left

end Rows

/-! ### Before the fill is booked -/

/-- An operation that leaves the book as it is. -/
def Reads : Op → Prop
  | .updateTrade _ _ => False
  | .createTrade _ => False
  | _ => True

theorem reads_keeps {fate : (op : Op) → Fate op} (op : Op) (trades : List Trade)
    (reads : Reads op) : (perform op (fate op) trades).1 = trades := by
  cases op <;> first | rfl | cases reads

theorem exec_reads {Value : Type} {program : Call Value} (only : program.Only Reads)
    {fates : (op : Op) → Fate op} {trades reached : List Trade} {value : Value}
    (returned : program.exec fates trades = (reached, .ok value)) : reached = trades := by
  have kept := @exec_keeps floor Value fates Reads (fun current => current = trades)
    (fun op current reads same => (reads_keeps op current reads).trans same) program only trades
    rfl
  rw [returned] at kept
  exact kept

theorem reads_await {op : Op} (reads : Reads op) : (await op).Only Reads :=
  only_perform reads

theorem reads_quotePaths (amountIn : ℕ) (paths : List (List String)) :
    (quotePaths amountIn paths).Only Reads := by
  induction paths with
  | nil => trivial
  | cons path rest inductionHypothesis =>
    refine only_bind (only_recover ?_ fun _ => trivial) fun _ =>
      only_bind inductionHypothesis fun _ => trivial
    exact only_then trivial fun _ => trivial

theorem reads_counterBalance (counter : Option String) (reading : Reading) :
    (counterBalance counter reading).Only Reads := by
  unfold counterBalance
  split
  · exact reads_await trivial
  · trivial

theorem reads_swapOnPancake (token : BscToken) (request : PersonalSwapRequest)
    (inDecimals amountIn : ℕ) : (swapOnPancake token request inDecimals amountIn).Only Reads := by
  refine only_bind (only_bind (reads_quotePaths _ _) fun _ => only_orThrow) fun best => ?_
  refine only_then trivial fun _ => only_bind (reads_counterBalance _ _) fun _ => ?_
  refine only_then trivial fun _ => only_then trivial fun _ => ?_
  exact only_then trivial fun _ => only_bind (reads_counterBalance _ _) fun _ =>
    trivial

theorem reads_wrapForSell (token : BscToken) (request : PersonalSwapRequest) :
    (wrapForSell token request).Only Reads := by
  unfold wrapForSell
  split
  · exact only_then trivial fun _ => reads_await trivial
  · trivial

theorem reads_ensureAllowance (inToken : String) (amountIn : ℕ) :
    (ensureAllowance inToken amountIn).Only Reads := by
  refine only_then trivial fun current => ?_
  split
  · exact reads_await trivial
  · trivial

theorem reads_swapPersonal (request : PersonalSwapRequest) :
    (swapPersonal request).Only Reads := by
  refine only_bind only_throwIf fun _ => only_bind only_throwIf fun _ => ?_
  refine only_bind only_orThrow fun token => only_bind only_throwIf fun _ => ?_
  refine only_then trivial fun _ => only_bind (reads_wrapForSell _ _) fun _ => ?_
  refine only_then trivial fun _ => only_bind only_ofExcept fun amountIn => ?_
  refine only_bind (only_bind only_throwIf fun _ => only_throwIf) fun _ => ?_
  exact only_bind (reads_ensureAllowance _ _) fun _ => reads_swapOnPancake _ _ _ _

theorem reads_balanceToSell (token : BscToken) : (balanceToSell token).Only Reads := by
  unfold balanceToSell
  split
  · refine only_then trivial fun _ => only_bind only_throwIf fun _ => ?_
    exact only_then trivial fun _ => reads_await trivial
  · exact reads_await trivial

theorem reads_placeMarketOrder (settings : RouterSettings) (input : SpotInput) :
    (placeMarketOrder settings input).Only Reads := by
  unfold placeMarketOrder
  split
  · exact only_bind only_throwIf fun _ => reads_await trivial
  · exact only_then trivial fun _ => only_bind only_ofExcept fun _ =>
      reads_await trivial

theorem reads_orderPrice (input : SpotInput) (remote : RemoteOrder) :
    (orderPrice input remote).Only Reads := by
  have either : ∀ filled : ℚ, (if filled ≤ 0 then do
      let mid ← await (.fetchBookTicker input.binanceSymbol.toUpper)
      pure (mid.getD 0)
    else pure filled : Call ℚ).Only Reads := by
    intro filled
    split
    · exact only_then trivial fun _ => trivial
    · trivial
  exact either _

theorem reads_fillBinanceSpot (settings : RouterSettings) (input : SpotInput) :
    (fillBinanceSpot settings input).Only Reads := by
  refine only_then trivial fun _ => only_bind only_orThrow fun _ => ?_
  refine only_then trivial fun _ => only_bind (reads_placeMarketOrder _ _) fun _ => ?_
  exact only_bind (reads_orderPrice _ _) fun _ => trivial

/-! ### The run of a sell -/

/-- The book answers whatever it is asked. -/
structure Answering (fates : (op : Op) → Fate op) : Prop where
  strategy : fates .ensureStrategyId = Delivery.answered
  findAll : ∀ pair, fates (.findOpenTradesOf pair) = Delivery.answered
  findOne : ∀ pair, fates (.findOpenTrade pair) = Delivery.answered
  findThis : ∀ id pair, fates (.findOpenTradeWithId id pair) = Delivery.answered
  update : ∀ id patch, fates (.updateTrade id patch) = Delivery.answered

section Runs

variable {fates : (op : Op) → Fate op} (answering : Answering fates) {trades : List Trade}
  {pair : String}
include answering

theorem exec_ensureStrategyId :
    (await .ensureStrategyId).exec fates trades = (trades, .ok ()) := by
  refine (exec_perform _ _).trans ?_
  simp only [perform, answering.strategy]
  rfl

theorem exec_findOpenTradesOf : (await (.findOpenTradesOf pair)).exec fates trades =
    (trades, .ok (openRowsOf pair trades)) := by
  refine (exec_perform _ _).trans ?_
  simp only [perform, answering.findAll]
  rfl

theorem exec_updateTrade {id : ℕ} {row : Trade} (found : trades[id]? = some row)
    (patch : TradePatch) : (await (.updateTrade id patch)).exec fates trades =
      (trades.set id (patch.apply row), .ok ⟨id, patch.apply row⟩) := by
  refine (exec_perform _ _).trans ?_
  simp only [perform, found, answering.update]
  rfl

theorem exec_positionToClose {oldest : Stored Trade} {siblings : List (Stored Trade)}
    (isLot : openRowsOf pair trades = oldest :: siblings) {closeTradeId : Option ℕ}
    (isOldest : ∀ id ∈ closeTradeId, id = oldest.id) :
    (positionToClose closeTradeId pair).exec fates trades = (trades, .ok (some oldest)) := by
  cases closeTradeId with
  | none =>
    refine (exec_perform _ _).trans ?_
    simp only [perform, answering.findOne, isLot]
    rfl
  | some id =>
    refine (exec_perform _ _).trans ?_
    simp only [perform, answering.findThis, isLot, isOldest id rfl]
    rw [List.find?_cons_of_pos (by simp)]
    rfl

theorem exec_cancelSiblings {siblings : List (Stored Trade)}
    (present : ∀ sibling ∈ siblings, sibling.id < trades.length) :
    (cancelSiblings siblings).exec fates trades =
      (cancelWhere (fun stored => stored.id ∈ siblings.map Stored.id) trades, .ok ()) := by
  induction siblings generalizing trades with
  | nil =>
    have same : cancelWhere (fun stored => stored.id ∈ ([] : List (Stored Trade)).map Stored.id)
        trades = trades := by
      refine List.ext_getElem? fun position => ?_
      rw [getElem?_cancelWhere]
      cases trades[position]? <;> rfl
    rw [same]
    rfl
  | cons sibling rest inductionHypothesis =>
    obtain ⟨row, found⟩ : ∃ row, trades[sibling.id]? = some row :=
      ⟨_, List.getElem?_eq_getElem (present sibling List.mem_cons_self)⟩
    have cancelled : (await (.updateTrade sibling.id cancelPatch) >>= fun _ =>
        pure ()).exec fates trades = (trades.set sibling.id row.cancel, .ok ()) :=
      exec_bind_ok (exec_updateTrade answering found cancelPatch)
    have others := @inductionHypothesis (trades.set sibling.id row.cancel) fun other member => by
      rw [List.length_set]
      exact present other (List.mem_cons_of_mem _ member)
    refine (exec_bind_ok cancelled).trans (others.trans ?_)
    refine congrArg (·, Except.ok ()) (List.ext_getElem? fun position => ?_)
    rw [getElem?_cancelWhere, getElem?_cancelWhere]
    rcases eq_or_ne sibling.id position with rfl | elsewhere
    · rw [List.getElem?_set_self (List.getElem?_eq_some_iff.mp found).1, found, Option.map_some,
        Option.map_some]
      simp only [List.map_cons, List.mem_cons, true_or, decide_true, if_true]
      split <;> rfl
    · rw [List.getElem?_set_ne elsewhere]
      simp only [List.map_cons, List.mem_cons, elsewhere.symm, false_or]

theorem exec_book {oldest : Stored Trade} {siblings : List (Stored Trade)}
    (isLot : openRowsOf pair trades = oldest :: siblings) {price : ℚ}
    {record : Call RecordedTrade} {trade : RecordedTrade}
    (recorded : record.exec fates trades =
      (trades.set oldest.id ((closePatch oldest.row price).apply oldest.row), .ok trade)) :
    (record >>= fun trade => cancelSiblings siblings >>= fun _ => pure trade).exec fates trades =
      (soldBook oldest siblings price trades, .ok trade) := by
  rw [exec_bind_ok recorded]
  refine exec_bind_ok (exec_cancelSiblings answering fun sibling member => ?_)
  rw [List.length_set]
  exact (List.getElem?_eq_some_iff.mp
    ((mem_lot isLot).mp (List.mem_cons_of_mem _ member)).1).1

theorem exec_recordSell {oldest : Stored Trade} {siblings : List (Stored Trade)}
    (isLot : openRowsOf pair trades = oldest :: siblings) {closeTradeId : Option ℕ}
    (isOldest : ∀ id ∈ closeTradeId, id = oldest.id) (fill : Fill) :
    ∃ trade, (recordSell closeTradeId pair fill).exec fates trades =
      (trades.set oldest.id ((closePatch oldest.row fill.price).apply oldest.row),
        .ok trade) := by
  have found := ((mem_lot isLot).mp List.mem_cons_self).1
  unfold recordSell
  rw [exec_bind_ok (exec_positionToClose answering isLot isOldest)]
  exact ⟨_, exec_bind_ok (exec_updateTrade answering found _)⟩

theorem exec_recordSpotSell {oldest : Stored Trade} {siblings : List (Stored Trade)}
    (isLot : openRowsOf pair trades = oldest :: siblings) (fill : Fill) :
    ∃ trade, (recordSpotSell pair fill).exec fates trades =
      (trades.set oldest.id ((closePatch oldest.row fill.price).apply oldest.row),
        .ok trade) := by
  have found := ((mem_lot isLot).mp List.mem_cons_self).1
  have first : (await (.findOpenTrade pair)).exec fates trades = (trades, .ok (some oldest)) :=
    @exec_positionToClose fates answering trades pair oldest siblings isLot none nofun
  unfold recordSpotSell
  rw [exec_bind_ok first]
  exact ⟨_, exec_bind_ok (exec_updateTrade answering found _)⟩

end Runs

/-! ### The plans -/

section Plans

variable {fates : (op : Op) → Fate op} (answering : Answering fates) {symbol : String}
  {trades reached : List Trade}
include answering

variable {Value : Type}

theorem exec_afterLookup {pair : String} {next : List (Stored Trade) → Call Value} {value : Value}
    (returned : (await .ensureStrategyId >>= fun _ =>
      await (.findOpenTradesOf pair) >>= next).exec fates trades = (reached, .ok value)) :
    (next (openRowsOf pair trades)).exec fates trades = (reached, .ok value) := by
  rw [exec_bind_ok (exec_ensureStrategyId answering),
    exec_bind_ok (exec_findOpenTradesOf answering)] at returned
  exact returned

omit answering in
/-- A check that passed changed nothing. -/
theorem exec_checked {Next : Type} {check : Call Value} (only : check.Only Reads)
    {next : Value → Call Next} {value : Next}
    (returned : (check >>= next).exec fates trades = (reached, .ok value)) :
    ∃ result, check.exec fates trades = (trades, .ok result) ∧
      (next result).exec fates trades = (reached, .ok value) := by
  obtain ⟨between, result, checked, rest⟩ := exec_bind_returned returned
  obtain rfl := exec_reads only checked
  exact ⟨result, checked, rest⟩

omit answering in
theorem orThrow_returned {found : Option Value} {failure : String} {value : Value}
    (returned : (orThrow found failure : Call Value).exec fates trades = (reached, .ok value)) :
    found = some value := by
  cases found with
  | none => cases returned
  | some present =>
    cases returned
    rfl

theorem planAggregatedSell_plans {plan : AggregatedSell}
    (planned : (planAggregatedSell symbol).exec fates trades = (reached, .ok plan)) :
    reached = trades ∧ plan.request.side = .sell ∧ plan.request.tokenSymbol = symbol.toUpper ∧
      ∃ oldest, openRowsOf (symbol.toUpper ++ "/USDT") trades = oldest :: plan.siblings ∧
        plan.request.closeTradeId = some oldest.id := by
  obtain ⟨token, _, planned⟩ := exec_checked only_orThrow planned
  obtain ⟨_, _, planned⟩ := exec_checked only_throwIf planned
  have planned := exec_afterLookup answering planned
  obtain ⟨oldest, isOldest, planned⟩ := exec_checked only_orThrow planned
  have signer : Reads .loadSigner := trivial
  obtain ⟨_, _, planned⟩ := exec_checked (reads_await signer) planned
  obtain ⟨balanceRaw, _, planned⟩ := exec_checked (reads_balanceToSell _) planned
  obtain ⟨_, _, planned⟩ := exec_checked only_throwIf planned
  obtain ⟨_, _, planned⟩ := exec_checked only_throwIf planned
  cases planned
  have isLot := List.eq_cons_of_mem_head? (orThrow_returned isOldest)
  exact ⟨rfl, rfl, rfl, oldest, isLot, rfl⟩

theorem planOpenPositionSell_plans {plan : OpenPositionSell}
    (planned : (planOpenPositionSell symbol).exec fates trades = (reached, .ok plan)) :
    reached = trades ∧ plan.input.side = .sell ∧
      plan.input.binanceSymbol = symbol.toUpper ++ "USDT" ∧
      ∃ oldest, openRowsOf (symbol.toUpper ++ "/USDT") trades = oldest :: plan.siblings := by
  have planned := exec_afterLookup answering planned
  obtain ⟨oldest, isOldest, planned⟩ := exec_checked only_orThrow planned
  obtain ⟨_, _, planned⟩ := exec_checked only_throwIf planned
  have quotes : ∀ quantity, Reads (.quoteBinanceSpotForUser (symbol.toUpper ++ "USDT") .sell
    quantity) := fun _ => trivial
  obtain ⟨quote, _, planned⟩ := exec_checked (reads_await (quotes _)) planned
  obtain ⟨_, _, planned⟩ := exec_checked only_throwIf planned
  cases planned
  have isLot := List.eq_cons_of_mem_head? (orThrow_returned isOldest)
  exact ⟨rfl, rfl, rfl, oldest, isLot⟩

theorem exec_sell {settings : RouterSettings} {path : Path} {fill : Fill}
    (filled : (path.fill settings symbol).exec fates trades = (reached, .ok fill)) :
    ∃ oldest siblings trade,
      openRowsOf (symbol.toUpper ++ "/USDT") trades = oldest :: siblings ∧
      (path.sell settings symbol).exec fates trades =
        (soldBook oldest siblings fill.price trades, .ok trade) := by
  cases path with
  | personalWallet =>
    obtain ⟨between, plan, planned, swapped⟩ := exec_bind_returned filled
    obtain ⟨rfl, isSell, isSymbol, oldest, isLot, closes⟩ :=
      planAggregatedSell_plans answering planned
    obtain rfl := exec_reads (reads_swapPersonal _) swapped
    have isOldest : ∀ id ∈ plan.request.closeTradeId, id = oldest.id := by
      intro id isId
      rw [closes] at isId
      exact (Option.some.inj isId).symm
    obtain ⟨trade, recorded⟩ := exec_recordSell answering isLot isOldest fill
    refine ⟨oldest, plan.siblings, trade, isLot, (exec_bind_ok planned).trans ?_⟩
    refine exec_book answering isLot ((exec_bind_ok swapped).trans ?_)
    refine (exec_bind_ok (exec_ensureStrategyId answering)).trans ?_
    rw [isSell, isSymbol, toUpper_toUpper]
    exact recorded
  | binanceSpot =>
    obtain ⟨between, plan, planned, ordered⟩ := exec_bind_returned filled
    obtain ⟨rfl, isSell, isSymbol, oldest, isLot⟩ := planOpenPositionSell_plans answering planned
    obtain rfl := exec_reads (reads_fillBinanceSpot _ _) ordered
    obtain ⟨trade, recorded⟩ := exec_recordSpotSell answering isLot fill
    refine ⟨oldest, plan.siblings, trade, isLot, (exec_bind_ok planned).trans ?_⟩
    refine exec_book answering isLot ((exec_bind_ok ordered).trans ?_)
    rw [isSell, isSymbol, baseAsset_usdt]
    exact recorded

end Plans

/-! ### Exactly the sells that are booked right -/

/-- A filled sell books the lots it sold if and only if they were sold whole and the profits it
writes nowhere add to nothing. -/
theorem sellBooked_iff_soldWhole (settings : RouterSettings) (path : Path) (symbol : String)
    (fates : (op : Op) → Fate op) (trades reached : List Trade) (fill : Fill)
    (answering : Answering fates)
    (filled : (path.fill settings symbol).exec fates trades = (reached, .ok fill)) :
    ∃ after trade, (path.sell settings symbol).exec fates trades = (after, .ok trade) ∧
      (SellBooked (symbol.toUpper ++ "/USDT") fill trades after ↔
        SoldWhole (openRowsOf (symbol.toUpper ++ "/USDT") trades) fill) := by
  obtain ⟨oldest, siblings, trade, isLot, sold⟩ := exec_sell answering filled
  refine ⟨_, trade, sold, ?_⟩
  rw [sellBooked_soldBook_iff isLot, isLot]

/-! ### One lot, and two -/

/-- Ether at 3000 dollars, on Binance and in a wallet that holds one. -/
def etherAt3000 : (op : Op) → Fate op
  | .ensureStrategyId => .answered
  | .findOpenTradesOf _ => .answered
  | .findOpenTrade _ => .answered
  | .findOpenTradeWithId _ _ => .answered
  | .updateTrade _ _ => .answered
  | .createTrade _ => .answered
  | .loadSigner => .ok ()
  | .readBnbBalances => .ok 0
  | .ensureWbnbForSell _ => .ok ()
  | .balanceOf contract reading =>
    .ok (if contract = usdtAddr then if reading = .after then 61108200000000000000 else 0
      else if reading = .after then 979630600000000000 else 1000000000000000000)
  | .allowance _ => .ok 0
  | .approve _ => .ok ()
  | .getAmountsOut amountIn _ => .ok [amountIn * 3000]
  | .swapExactTokensForTokens _ _ _ => .ok "0x1"
  | .waitForReceipt _ => .ok ()
  | .getUserBinanceConnection => .ok (some ())
  | .getParsedSymbolRules _ => .ok ⟨"ETHUSDT", ⟨⟨1, 4⟩, ⟨90000000, 4⟩, ⟨1, 4⟩⟩, 5⟩
  | .placeOrder order => .ok ⟨"1", order.quantity.map Fixed.value,
      order.quantity.map fun quantity => quantity.value * 3000⟩
  | .fetchBookTicker _ => .ok (some 3000)
  | .quoteBinanceSpotForUser _ _ _ => .ok ⟨true, none, none⟩

/-- A hundredth of an ether, bought at a price. -/
def etherLot (price : ℚ) : Trade :=
  ⟨"ETH/USDT", price, none, none, some (price / 100), none, .open⟩

theorem answering_etherAt3000 : Answering etherAt3000 :=
  ⟨rfl, fun _ => rfl, fun _ => rfl, fun _ _ => rfl, fun _ _ => rfl⟩

/-- The fill of an example sell. -/
def etherFill (lots : ℚ) : Path → Fill
  | .personalWallet => ⟨203694 / 10000000, 3000, 611082 / 10000, "0x1"⟩
  | .binanceSpot => ⟨lots / 100, 3000, lots * 30, "1"⟩

/-- One lot that Binance sells whole is booked right. -/
theorem sellBooked_oneLot :
    ∃ after trade, (Path.binanceSpot.sell ⟨10⟩ "eth").exec etherAt3000 [etherLot 2000] =
        (after, .ok trade) ∧
      SellBooked "ETH/USDT" (etherFill 1 .binanceSpot) [etherLot 2000] after := by
  have filled : (Path.binanceSpot.fill ⟨10⟩ "eth").exec etherAt3000 [etherLot 2000] =
      ([etherLot 2000], .ok (etherFill 1 .binanceSpot)) := by decide +kernel
  obtain ⟨after, trade, sold, booked⟩ := sellBooked_iff_soldWhole ⟨10⟩ .binanceSpot "eth"
    etherAt3000 [etherLot 2000] [etherLot 2000] (etherFill 1 .binanceSpot) answering_etherAt3000
    filled
  have isPair : "eth".toUpper ++ "/USDT" = "ETH/USDT" := by decide +kernel
  rw [isPair] at booked
  refine ⟨after, trade, sold, booked.mpr ⟨?_, ?_, ?_⟩⟩ <;> decide +kernel

/-- Of two lots that are sold together only the first is booked, in both books. -/
theorem not_sellBooked : ¬ ∃ path : Path, ∀ (settings : RouterSettings) (symbol : String)
    (fates : (op : Op) → Fate op) (trades reached after : List Trade) (fill : Fill)
    (trade : RecordedTrade), Answering fates →
    (path.fill settings symbol).exec fates trades = (reached, .ok fill) →
    (path.sell settings symbol).exec fates trades = (after, .ok trade) →
    SellBooked (symbol.toUpper ++ "/USDT") fill trades after := by
  rintro ⟨path, claimed⟩
  have filled : (path.fill ⟨10⟩ "eth").exec etherAt3000 [etherLot 2000, etherLot 2500] =
      ([etherLot 2000, etherLot 2500], .ok (etherFill 2 path)) := by
    cases path <;> decide +kernel
  obtain ⟨oldest, siblings, trade, isLot, sold⟩ := exec_sell answering_etherAt3000 filled
  have booked := claimed _ _ _ _ _ _ _ _ answering_etherAt3000 filled sold
  have isPair : "eth".toUpper ++ "/USDT" = "ETH/USDT" := by decide +kernel
  rw [isPair] at isLot booked
  rw [sellBooked_soldBook_iff isLot] at booked
  have lost := booked.nothing
  rw [← isLot] at lost
  revert lost
  cases path <;> decide +kernel

end GdslExchange.Spot
