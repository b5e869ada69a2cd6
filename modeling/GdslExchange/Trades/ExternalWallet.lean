/-
This file models the reports of swaps that an external wallet has made, and compares the book
they leave with the lots that were bought and sold.

A report of a sell closes the oldest OPEN row of the pair, whatever it sold, at the proceeds less
the cost of that row. So the book is right exactly as long as each sell sells the oldest row, no
less and no more.
-/

import GdslExchange.Async.Journal
import GdslExchange.Jupiter.Merging
import GdslExchange.Numeric.Fifo

namespace GdslExchange.Trades

open Async (Along Always Stored always_iff_along_admitted)
open Jupiter (Side Trade TradePatch TradeStatus openCost openCost_append openCost_set
  openCost_eq_openRowsOf openRowsOf openRowsOf_eq openRowsOf_sorted openRowsOf_set_other
  mem_openRowsOf)
open Numeric

/-! ### Reports -/

/-- The body of a report. -/
structure Execution where
  pair : String
  side : Side
  entryPrice : ℚ
  allocationUsd : Option ℚ
  pnl : Option ℚ
  exitPrice : Option ℚ

/-- `text.length`: characters beyond the first 65536 count twice. -/
def codeUnits (text : String) : ℕ :=
  (text.toList.map fun character => if character.toNat < 65536 then 1 else 2).sum

def logExecutionSchema (body : Execution) : Bool :=
  3 ≤ codeUnits body.pair && codeUnits body.pair ≤ 32 && 0 < body.entryPrice &&
    body.allocationUsd.all (0 < ·) && body.exitPrice.all (0 < ·)

/-- The side that a row is shown with. -/
inductive DerivedSide where
  | buy
  | sell
  | closed
deriving DecidableEq

/-- The answer to a report. -/
structure Logged where
  id : ℕ
  pair : String
  side : DerivedSide
  status : TradeStatus

namespace Execution

def sellAlloc (body : Execution) : ℚ := body.allocationUsd.getD 0

/-- The tokens of a swap. -/
def quantity (body : Execution) : ℚ := body.sellAlloc / body.entryPrice

/-- The row of a BUY. -/
def opened (body : Execution) : Trade where
  pair := body.pair
  entryPrice := body.entryPrice
  exitPrice := none
  pnl := none
  allocationUsd := body.allocationUsd
  takeProfitPct := none
  status := .open

/-- The row of a SELL that finds no OPEN row. -/
def orphan (body : Execution) : Trade where
  pair := body.pair
  entryPrice := body.entryPrice
  exitPrice := body.exitPrice
  pnl := body.pnl
  allocationUsd := body.allocationUsd
  takeProfitPct := none
  status := .closed

def realized (body : Execution) (openPos : Trade) : ℚ :=
  roundTo 8 (body.sellAlloc - openPos.alloc)

/-- The row that a SELL closes. -/
def closed (body : Execution) (openPos : Trade) : Trade :=
  TradePatch.apply
    { exitPrice := some body.entryPrice
      pnl := some (body.realized openPos)
      status := some .closed }
    openPos

end Execution

/-- `/log-execution`, over the rows of the user under the strategy "DEX External Wallet" in
creation order. -/
def logExecution (body : Execution) (trades : List Trade) : List Trade × Except String Logged :=
  if logExecutionSchema body then
    match body.side with
    | .buy => (trades ++ [body.opened], .ok ⟨trades.length, body.pair, .buy, .open⟩)
    | .sell =>
      match openRowsOf body.pair trades with
      | openPos :: _ =>
        (trades.set openPos.id (body.closed openPos.row),
          .ok ⟨openPos.id, body.pair, .closed, .closed⟩)
      | [] => (trades ++ [body.orphan], .ok ⟨trades.length, body.pair, .sell, .closed⟩)
  else (trades, .error "Invalid execution payload")

/-! ### What was bought and sold -/

/-- Tokens that were bought at a price. -/
@[ext] structure Lot where
  quantity : ℚ
  price : ℚ
deriving DecidableEq

def Lot.cost (lot : Lot) : ℚ := lot.quantity * lot.price

def Lot.left (given : Lot × ℚ) : Option Lot :=
  if given.2 < given.1.quantity then some ⟨given.1.quantity - given.2, given.1.price⟩ else none

/-- The lots after a sell, the oldest first. -/
def sellLots (lots : List Lot) (quantity : ℚ) : List Lot :=
  (consume Lot.quantity lots quantity).filterMap Lot.left

def Execution.bought (body : Execution) : Option Lot :=
  body.allocationUsd.map fun usd => ⟨usd / body.entryPrice, body.entryPrice⟩

/-- The book, the lots of one pair that are unsold, and the proceeds less the cost of those that
were sold. -/
structure Course where
  trades : List Trade
  lots : List Lot
  profit : ℚ

def Course.start : Course where
  trades := []
  lots := []
  profit := 0

namespace Course

variable (pair : String)

/-- A report that is about the pair. -/
def Concerns (body : Execution) : Prop := logExecutionSchema body ∧ body.pair = pair

instance (body : Execution) : Decidable (Concerns pair body) :=
  inferInstanceAs (Decidable (_ ∧ _))

/-- What a report of a swap does to the book and the swap itself to the lots. -/
def report (body : Execution) (course : Course) : Course where
  trades := (logExecution body course.trades).1
  lots :=
    if Concerns pair body then
      match body.side with
      | .buy => course.lots ++ body.bought.toList
      | .sell => sellLots course.lots body.quantity
    else course.lots
  profit :=
    if Concerns pair body ∧ body.side = .sell then
      course.profit + (body.sellAlloc - cost Lot.quantity Lot.price course.lots body.quantity)
    else course.profit

/-- No more is sold than is held. -/
def Covered (body : Execution) (course : Course) : Prop :=
  Concerns pair body → body.side = .sell →
    body.quantity ≤ (course.lots.map Lot.quantity).sum

/-- The profit of the pair that a row carries. -/
def realizes (trade : Trade) : ℚ :=
  if trade.pair = pair ∧ trade.status = .closed then trade.banked else 0

/-- The profit that the CLOSED rows of the pair carry. -/
def closedPnl (trades : List Trade) : ℚ := (trades.map (realizes pair)).sum

/-- The CLOSED rows carry the profit of what was sold, and the OPEN rows the cost of what was
not. -/
structure Booked (course : Course) : Prop where
  profit : closedPnl pair course.trades = course.profit
  cost : openCost pair course.trades = (course.lots.map Lot.cost).sum

instance (course : Course) : Decidable (Booked pair course) :=
  decidable_of_iff (_ ∧ _) ⟨fun both => ⟨both.1, both.2⟩, fun booked => ⟨booked.1, booked.2⟩⟩

instance (body : Execution) (course : Course) : Decidable (Covered pair body course) :=
  inferInstanceAs (Decidable (_ → _ → _))

/-- A sell sells the oldest of the OPEN rows, and its profit has at most eight places. One that
finds no such row brings no profit of its own. -/
def SellsRow (body : Execution) : List (Stored Trade) → Prop
  | openPos :: _ => body.quantity = openPos.row.alloc / openPos.row.entryPrice ∧
      body.realized openPos.row = body.sellAlloc - openPos.row.alloc
  | [] => body.pnl.getD 0 = 0

instance (body : Execution) : (rows : List (Stored Trade)) → Decidable (SellsRow body rows)
  | _ :: _ => inferInstanceAs (Decidable (_ ∧ _))
  | [] => inferInstanceAs (Decidable (_ = _))

def SellsOldest (body : Execution) (course : Course) : Prop :=
  Concerns pair body → body.side = .sell → SellsRow body (openRowsOf pair course.trades)

instance (body : Execution) (course : Course) : Decidable (SellsOldest pair body course) :=
  inferInstanceAs (Decidable (_ → _ → _))

end Course

/-! ### Lots -/

section Lots

variable {lots rest : List Lot} {lot : Lot} {quantity : ℚ}

theorem sellLots_cons : sellLots (lot :: lots) quantity =
    (Lot.left (lot, min lot.quantity quantity)).toList ++
      sellLots lots (quantity - min lot.quantity quantity) := by
  unfold sellLots
  rw [consume, List.filterMap_cons]
  rcases Lot.left (lot, min lot.quantity quantity) with _ | left <;> rfl

theorem sum_cost_left (given : Lot × ℚ) (within : given.2 ≤ given.1.quantity) :
    ((Lot.left given).toList.map Lot.cost).sum = given.1.cost - given.2 * given.1.price := by
  unfold Lot.left Lot.cost
  split_ifs with some
  · rw [Option.toList_some, List.map_singleton, List.sum_singleton]
    ring
  · rw [le_antisymm within (not_lt.mp some), Option.toList_none, List.map_nil, List.sum_nil,
      sub_self]

/-- What is left costs what was held less what was sold. -/
theorem sum_cost_sellLots : ((sellLots lots quantity).map Lot.cost).sum =
    (lots.map Lot.cost).sum - cost Lot.quantity Lot.price lots quantity := by
  induction lots generalizing quantity with
  | nil => exact (sub_zero _).symm
  | cons lot rest inductionHypothesis =>
    rw [sellLots_cons, List.map_append, List.sum_append, inductionHypothesis,
      sum_cost_left _ (min_le_left _ _), cost_cons, List.map_cons, List.sum_cons]
    ring

section Positive

variable (positive : ∀ lot ∈ lots, 0 < lot.quantity)
include positive

theorem sellLots_zero : sellLots lots 0 = lots := by
  unfold sellLots
  rw [consume_zero fun lot member => (positive lot member).le, List.filterMap_map]
  refine (List.filterMap_congr fun lot member => ?_).trans List.filterMap_some
  simp only [Function.comp, Lot.left]
  rw [if_pos (positive lot member), sub_zero]

theorem sellLots_oldest : sellLots (lot :: lots) lot.quantity = lots := by
  rw [sellLots_cons, min_self, sub_self, sellLots_zero positive, Lot.left, if_neg (lt_irrefl _)]
  rfl

end Positive

end Lots

/-! ### Rows -/

section Rows

variable {trades : List Trade} {pair : String} {oldest : Stored Trade}
  {rest : List (Stored Trade)}

theorem openRowsOf_concat (row : Trade) : openRowsOf pair (trades ++ [row]) =
    openRowsOf pair trades ++
      if row.pair = pair ∧ row.IsOpen then [⟨trades.length, row⟩] else [] := by
  unfold openRowsOf Jupiter.rows
  rw [List.mapIdx_concat, List.filter_append, List.filter_singleton, Bool.cond_decide]

theorem openRowsOf_close (isLot : openRowsOf pair trades = oldest :: rest) {written : Trade}
    (closed : ¬ written.IsOpen) :
    openRowsOf pair (trades.set oldest.id written) = rest := by
  have member : ∀ stored, stored ∈ oldest :: rest ↔
      trades[stored.id]? = some stored.row ∧ stored.row.pair = pair ∧ stored.row.IsOpen :=
    fun stored => by rw [← isLot, mem_openRowsOf]
  obtain ⟨found, _, _⟩ := (member oldest).mp List.mem_cons_self
  have sorted := openRowsOf_sorted pair trades
  rw [isLot, List.pairwise_cons] at sorted
  refine openRowsOf_eq sorted.2 fun stored => ?_
  rw [mem_openRowsOf]
  rcases eq_or_ne oldest.id stored.id with isOldest | elsewhere
  · rw [← isOldest, List.getElem?_set_self (List.getElem?_eq_some_iff.mp found).1]
    constructor
    · rintro ⟨isRow, _, isOpen⟩
      rw [← Option.some.inj isRow] at isOpen
      exact absurd isOpen closed
    · intro inRest
      exact absurd isOldest (sorted.1 stored inRest).ne
  · rw [List.getElem?_set_ne elsewhere, ← member, List.mem_cons]
    refine or_iff_right ?_
    rintro rfl
    exact elsewhere rfl

end Rows

/-! ### The book after a report -/

section Log

variable {body : Execution} {trades : List Trade}

theorem logExecution_rejected (invalid : ¬ logExecutionSchema body) :
    (logExecution body trades).1 = trades := by
  unfold logExecution
  rw [if_neg invalid]

variable (accepted : logExecutionSchema body)
include accepted

theorem logExecution_buy (isBuy : body.side = .buy) :
    (logExecution body trades).1 = trades ++ [body.opened] := by
  unfold logExecution
  rw [if_pos accepted, isBuy]

theorem logExecution_close {openPos : Stored Trade} {rest : List (Stored Trade)}
    (isSell : body.side = .sell) (isLot : openRowsOf body.pair trades = openPos :: rest) :
    (logExecution body trades).1 = trades.set openPos.id (body.closed openPos.row) := by
  unfold logExecution
  rw [if_pos accepted, isSell, isLot]

theorem logExecution_orphan (isSell : body.side = .sell)
    (none : openRowsOf body.pair trades = []) :
    (logExecution body trades).1 = trades ++ [body.orphan] := by
  unfold logExecution
  rw [if_pos accepted, isSell, none]

theorem price_pos : 0 < body.entryPrice := by
  unfold logExecutionSchema at accepted
  simp only [Bool.and_eq_true, decide_eq_true_eq] at accepted
  exact accepted.1.1.2

theorem sellAlloc_pos {usd : ℚ} (isUsd : body.allocationUsd = some usd) : 0 < usd := by
  unfold logExecutionSchema at accepted
  simp only [Bool.and_eq_true, decide_eq_true_eq, isUsd, Option.all_some] at accepted
  exact accepted.1.2

theorem sellAlloc_nonneg : 0 ≤ body.sellAlloc := by
  unfold Execution.sellAlloc
  rcases isUsd : body.allocationUsd with _ | usd
  · exact le_rfl
  · exact (sellAlloc_pos accepted isUsd).le

theorem quantity_nonneg : 0 ≤ body.quantity :=
  div_nonneg (sellAlloc_nonneg accepted) (price_pos accepted).le

end Log

namespace Course

section Profit

variable {trades : List Trade} {pair : String} {id : ℕ} {row : Trade}

theorem closedPnl_concat (row : Trade) :
    closedPnl pair (trades ++ [row]) = closedPnl pair trades + realizes pair row := by
  unfold closedPnl
  rw [List.map_append, List.sum_append, List.map_singleton, List.sum_singleton]

theorem closedPnl_set (found : trades[id]? = some row) (written : Trade) :
    closedPnl pair (trades.set id written) =
      closedPnl pair trades + (realizes pair written - realizes pair row) := by
  obtain ⟨inBook, rfl⟩ := List.getElem?_eq_some_iff.mp found
  unfold closedPnl
  rw [List.map_set, List.sum_set', dif_pos (by rwa [List.length_map]), List.getElem_map,
    neg_add_eq_sub]

end Profit

/-! ### The book and the lots -/

/-- The lot that a row stands for, if it has a cost. -/
def lotOf (stored : Stored Trade) : Option Lot :=
  if 0 < stored.row.alloc then
    some ⟨stored.row.alloc / stored.row.entryPrice, stored.row.entryPrice⟩
  else none

/-- The OPEN rows of the pair stand for the lots that are unsold, and the CLOSED rows carry the
profit. -/
structure Tracks (pair : String) (course : Course) : Prop where
  priced : ∀ stored ∈ openRowsOf pair course.trades,
    0 < stored.row.entryPrice ∧ 0 ≤ stored.row.alloc
  lots : (openRowsOf pair course.trades).filterMap lotOf = course.lots
  profit : closedPnl pair course.trades = course.profit

theorem tracks_start (pair : String) : Tracks pair start where
  priced := List.forall_mem_nil _
  lots := rfl
  profit := rfl

theorem sum_cost_lotOf {rows : List (Stored Trade)}
    (priced : ∀ stored ∈ rows, 0 < stored.row.entryPrice ∧ 0 ≤ stored.row.alloc) :
    ((rows.filterMap lotOf).map Lot.cost).sum = (rows.map fun stored => stored.row.alloc).sum := by
  induction rows with
  | nil => rfl
  | cons stored rest inductionHypothesis =>
    obtain ⟨price, alloc⟩ := priced stored List.mem_cons_self
    have others := inductionHypothesis fun other member =>
      priced other (List.mem_cons_of_mem _ member)
    rw [List.map_cons, List.sum_cons, ← others, List.filterMap_cons, lotOf]
    split_ifs with costly
    · rw [List.map_cons, List.sum_cons, Lot.cost, div_mul_cancel₀ _ price.ne']
    · rw [le_antisymm (not_lt.mp costly) alloc, zero_add]

theorem lotOf_positive {stored : Stored Trade} {lot : Lot} (price : 0 < stored.row.entryPrice)
    (isLot : lotOf stored = some lot) : 0 < lot.quantity ∧ 0 < lot.price := by
  unfold lotOf at isLot
  split_ifs at isLot with costly
  obtain rfl := Option.some.inj isLot
  exact ⟨div_pos costly price, price⟩

section Tracks

variable {pair : String} {course : Course} {body : Execution}

section Kept

variable (tracks : Tracks pair course)
include tracks

theorem Tracks.booked : Booked pair course where
  profit := tracks.profit
  cost := by rw [openCost_eq_openRowsOf, ← tracks.lots, sum_cost_lotOf tracks.priced]

theorem Tracks.positive {lot : Lot} (member : lot ∈ course.lots) :
    0 < lot.quantity ∧ 0 < lot.price := by
  rw [← tracks.lots] at member
  obtain ⟨stored, inRows, isLot⟩ := List.mem_filterMap.mp member
  exact lotOf_positive (tracks.priced stored inRows).1 isLot

theorem Tracks.report_other (other : ¬ Concerns pair body) :
    Tracks pair (course.report pair body) := by
  have same : openRowsOf pair (logExecution body course.trades).1 =
        openRowsOf pair course.trades ∧
      closedPnl pair (logExecution body course.trades).1 = closedPnl pair course.trades := by
    by_cases accepted : logExecutionSchema body
    · have elsewhere : body.pair ≠ pair := fun isPair => other ⟨accepted, isPair⟩
      rcases isSide : body.side with _ | _
      · rw [logExecution_buy accepted isSide, openRowsOf_concat, closedPnl_concat, realizes,
          if_neg fun both => elsewhere both.1, if_neg fun both => elsewhere both.1]
        exact ⟨List.append_nil _, add_zero _⟩
      rcases isLot : openRowsOf body.pair course.trades with _ | ⟨openPos, rest⟩
      · rw [logExecution_orphan accepted isSide isLot, openRowsOf_concat, closedPnl_concat,
          realizes, if_neg fun both => elsewhere both.1, if_neg fun both => elsewhere both.1]
        exact ⟨List.append_nil _, add_zero _⟩
      · obtain ⟨found, isPair, _⟩ := mem_openRowsOf.mp
          (isLot ▸ List.mem_cons_self : openPos ∈ openRowsOf body.pair course.trades)
        have isOther : openPos.row.pair ≠ pair := fun same => elsewhere (isPair.symm.trans same)
        rw [logExecution_close accepted isSide isLot, closedPnl_set found, realizes, realizes,
          if_neg fun both => isOther both.1, if_neg fun both => isOther both.1]
        exact ⟨openRowsOf_set_other found _ isOther, by rw [sub_zero, add_zero]⟩
    · rw [logExecution_rejected accepted]
      exact ⟨rfl, rfl⟩
  unfold report
  rw [if_neg other, if_neg fun both => other both.1]
  exact ⟨same.1 ▸ tracks.priced, same.1 ▸ tracks.lots, same.2 ▸ tracks.profit⟩

/-- The oldest OPEN row carries the cost of its quantity, and without that quantity the others
stand for what is left. -/
theorem Tracks.oldest {openPos : Stored Trade} {rest : List (Stored Trade)}
    (isLot : openRowsOf pair course.trades = openPos :: rest) :
    cost Lot.quantity Lot.price course.lots (openPos.row.alloc / openPos.row.entryPrice) =
        openPos.row.alloc ∧
      openPos.row.alloc / openPos.row.entryPrice ≤ (course.lots.map Lot.quantity).sum ∧
      sellLots course.lots (openPos.row.alloc / openPos.row.entryPrice) =
        rest.filterMap lotOf := by
  obtain ⟨price, alloc⟩ := tracks.priced openPos (isLot ▸ List.mem_cons_self)
  have positive := fun lot (member : lot ∈ course.lots) => (tracks.positive member).1
  have nonneg := fun lot member => (positive lot member).le
  have lots := tracks.lots
  rw [isLot, List.filterMap_cons, lotOf] at lots
  by_cases costly : 0 < openPos.row.alloc
  · rw [if_pos costly] at lots
    rw [← lots] at positive nonneg ⊢
    have others := fun lot member => nonneg lot (List.mem_cons_of_mem _ member)
    refine ⟨?_, ?_, ?_⟩
    · exact (cost_oldest others).trans (div_mul_cancel₀ _ price.ne')
    · rw [List.map_cons, List.sum_cons]
      refine le_add_of_nonneg_right (List.sum_nonneg fun quantity member => ?_)
      obtain ⟨lot, isLater, rfl⟩ := List.mem_map.mp member
      exact others lot isLater
    · exact sellLots_oldest fun lot member => positive lot (List.mem_cons_of_mem _ member)
  · rw [if_neg costly] at lots
    have left : rest.filterMap lotOf = course.lots := lots
    rw [le_antisymm (not_lt.mp costly) alloc, zero_div, left]
    refine ⟨cost_zero nonneg, List.sum_nonneg fun quantity member => ?_, sellLots_zero positive⟩
    obtain ⟨lot, isLot, rfl⟩ := List.mem_map.mp member
    exact nonneg lot isLot

end Kept

section Concerned

variable (concerns : Concerns pair body)
include concerns

theorem Tracks.report_buy (tracks : Tracks pair course) (isBuy : body.side = .buy) :
    Tracks pair (course.report pair body) := by
  obtain ⟨accepted, rfl⟩ := concerns
  have rows : openRowsOf body.pair (logExecution body course.trades).1 =
      openRowsOf body.pair course.trades ++ [⟨course.trades.length, body.opened⟩] := by
    rw [logExecution_buy accepted isBuy, openRowsOf_concat, if_pos ⟨rfl, rfl⟩]
  have lot : lotOf ⟨course.trades.length, body.opened⟩ = body.bought := by
    unfold lotOf Execution.bought Trade.alloc Execution.opened
    rcases isUsd : body.allocationUsd with _ | usd
    · exact if_neg (lt_irrefl _)
    · exact if_pos (sellAlloc_pos accepted isUsd)
  unfold report
  rw [if_pos ⟨accepted, rfl⟩, isBuy, if_neg fun both => Side.noConfusion both.2]
  refine ⟨fun stored member => ?_, ?_, ?_⟩
  · rw [rows, List.mem_append, List.mem_singleton] at member
    rcases member with before | rfl
    · exact tracks.priced stored before
    · exact ⟨price_pos accepted, sellAlloc_nonneg accepted⟩
  · dsimp only
    rw [rows, List.filterMap_append, tracks.lots, List.filterMap_cons, lot]
    rcases body.bought with _ | _ <;> rfl
  · dsimp only
    rw [logExecution_buy accepted isBuy, closedPnl_concat, realizes,
      if_neg fun both => TradeStatus.noConfusion both.2, add_zero]
    exact tracks.profit

section Sell

variable (isSell : body.side = .sell)
include isSell

theorem report_sell : course.report pair body =
    ⟨(logExecution body course.trades).1, sellLots course.lots body.quantity, course.profit +
      (body.sellAlloc - cost Lot.quantity Lot.price course.lots body.quantity)⟩ := by
  unfold report
  rw [if_pos concerns, if_pos ⟨concerns, isSell⟩, isSell]

theorem Tracks.report_orphan (tracks : Tracks pair course) (covered : Covered pair body course)
    (none : openRowsOf pair course.trades = []) :
    (Booked pair (course.report pair body) ↔ body.pnl.getD 0 = 0) ∧
      (body.pnl.getD 0 = 0 → Tracks pair (course.report pair body)) := by
  have noLots : course.lots = [] := by rw [← tracks.lots, none, List.filterMap_nil]
  have nothing : body.sellAlloc = 0 := by
    have atMost := covered concerns isSell
    rw [noLots] at atMost
    have isZero : body.quantity = 0 := atMost.antisymm (quantity_nonneg concerns.1)
    exact (div_eq_zero_iff.mp isZero).resolve_right (price_pos concerns.1).ne'
  have rows : openRowsOf pair (logExecution body course.trades).1 = [] := by
    rw [logExecution_orphan concerns.1 isSell (concerns.2.symm ▸ none), openRowsOf_concat, none,
      if_neg fun both => TradeStatus.noConfusion both.2, List.append_nil]
  have pnl : closedPnl pair (logExecution body course.trades).1 =
      course.profit + body.pnl.getD 0 := by
    rw [logExecution_orphan concerns.1 isSell (concerns.2.symm ▸ none), closedPnl_concat,
      tracks.profit, realizes, if_pos ⟨concerns.2, rfl⟩]
    rfl
  have profit : course.profit +
      (body.sellAlloc - cost Lot.quantity Lot.price course.lots body.quantity) =
      course.profit := by
    rw [noLots, nothing]
    exact (congrArg _ (sub_self _)).trans (add_zero _)
  have lots : sellLots course.lots body.quantity = [] := by
    rw [noLots]
    rfl
  rw [report_sell concerns isSell, profit, lots]
  refine ⟨⟨fun booked => ?_, fun free => ⟨?_, ?_⟩⟩, fun free => ⟨?_, ?_, ?_⟩⟩
  · exact add_eq_left.mp (pnl.symm.trans booked.profit)
  · rw [pnl, free, add_zero]
  · rw [openCost_eq_openRowsOf, rows]
    rfl
  · rw [rows]
    exact List.forall_mem_nil _
  · rw [rows]
    rfl
  · rw [pnl, free, add_zero]

/-- A SELL that finds an OPEN row is booked right exactly if it sells the quantity of that row and
its profit is not rounded. -/
theorem Tracks.report_close (tracks : Tracks pair course) (covered : Covered pair body course)
    {openPos : Stored Trade} {rest : List (Stored Trade)}
    (isLot : openRowsOf pair course.trades = openPos :: rest) :
    (Booked pair (course.report pair body) ↔
      body.quantity = openPos.row.alloc / openPos.row.entryPrice ∧
        body.realized openPos.row = body.sellAlloc - openPos.row.alloc) ∧
      (body.quantity = openPos.row.alloc / openPos.row.entryPrice →
        body.realized openPos.row = body.sellAlloc - openPos.row.alloc →
          Tracks pair (course.report pair body)) := by
  have member : openPos ∈ openRowsOf pair course.trades := isLot ▸ List.mem_cons_self
  obtain ⟨found, isPair, isOpen⟩ := mem_openRowsOf.mp member
  obtain ⟨price, alloc⟩ := tracks.priced openPos member
  obtain ⟨costs, held, left⟩ := tracks.oldest isLot
  have book := logExecution_close concerns.1 isSell (concerns.2.symm ▸ isLot)
  have closed : ¬ (body.closed openPos.row).IsOpen := TradeStatus.noConfusion
  have rows : openRowsOf pair (logExecution body course.trades).1 = rest := by
    rw [book]
    exact openRowsOf_close isLot closed
  have pnl : closedPnl pair (logExecution body course.trades).1 =
      course.profit + body.realized openPos.row := by
    have unrealized : realizes pair openPos.row = 0 :=
      if_neg fun both => TradeStatus.noConfusion (isOpen.symm.trans both.2)
    have realized : realizes pair (body.closed openPos.row) = body.realized openPos.row :=
      if_pos ⟨isPair, rfl⟩
    rw [book, closedPnl_set found, tracks.profit, unrealized, realized, sub_zero]
  have carried : openCost pair (logExecution body course.trades).1 =
      (course.lots.map Lot.cost).sum - openPos.row.alloc := by
    have before := tracks.booked.cost
    rw [openCost_eq_openRowsOf, isLot, List.map_cons, List.sum_cons] at before
    rw [openCost_eq_openRowsOf, rows, ← before, add_sub_cancel_left]
  have exactly : cost Lot.quantity Lot.price course.lots body.quantity = openPos.row.alloc ↔
      body.quantity = openPos.row.alloc / openPos.row.entryPrice := by
    refine Iff.trans (by rw [costs]) (cost_inj (fun lot isLot => (tracks.positive isLot).1.le)
      (fun lot isLot => (tracks.positive isLot).2) (quantity_nonneg concerns.1)
      (covered concerns isSell) (div_nonneg alloc price.le) held)
  rw [report_sell concerns isSell, ← exactly]
  refine ⟨⟨fun booked => ?_, fun both => ⟨?_, ?_⟩⟩, fun whole realized => ⟨?_, ?_, ?_⟩⟩
  · have isCost := booked.cost
    have isProfit := booked.profit
    rw [carried, sum_cost_sellLots, sub_right_inj] at isCost
    rw [pnl, add_right_inj, ← isCost] at isProfit
    exact ⟨isCost.symm, isProfit⟩
  · rw [pnl, both.1, both.2]
  · rw [carried, sum_cost_sellLots, both.1]
  · rw [rows]
    exact fun stored inRest => tracks.priced stored (isLot ▸ List.mem_cons_of_mem _ inRest)
  · rw [rows, exactly.mp whole, left]
  · rw [pnl, whole, realized]

end Sell

end Concerned

end Tracks

/-! ### All reports -/

section Reports

variable {pair : String} {course : Course} {body : Execution}

theorem Tracks.report_booked_iff (tracks : Tracks pair course)
    (covered : Covered pair body course) :
    (Booked pair (course.report pair body) ↔ SellsOldest pair body course) ∧
      (SellsOldest pair body course → Tracks pair (course.report pair body)) := by
  by_cases sells : Concerns pair body ∧ body.side = .sell
  · obtain ⟨concerns, isSell⟩ := sells
    unfold SellsOldest
    simp only [concerns, isSell, forall_const]
    rcases isLot : openRowsOf pair course.trades with _ | ⟨openPos, rest⟩
    · exact tracks.report_orphan concerns isSell covered isLot
    · obtain ⟨iff, keeps⟩ := tracks.report_close concerns isSell covered isLot
      exact ⟨iff, fun both => keeps both.1 both.2⟩
  · have kept : Tracks pair (course.report pair body) := by
      by_cases concerns : Concerns pair body
      · refine tracks.report_buy concerns ?_
        rcases isSide : body.side with _ | _
        · rfl
        · exact absurd ⟨concerns, isSide⟩ sells
      · exact tracks.report_other concerns
    have exempt : SellsOldest pair body course :=
      fun concerns isSell => absurd ⟨concerns, isSell⟩ sells
    exact ⟨iff_of_true kept.booked exempt, fun _ => kept⟩

end Reports

/-- The book carries the profit of what was sold and the cost of what was not after every report
if and only if each sell sells the oldest OPEN row. -/
theorem booked_iff_sellsOldest (pair : String) (reports : List Execution)
    (covered : Along (report pair) (Covered pair) reports start) :
    Always (report pair) (Booked pair) reports start ↔
      Along (report pair) (SellsOldest pair) reports start :=
  always_iff_along_admitted
    (fun _ _ tracks covered sells => (tracks.report_booked_iff covered).2 sells)
    (fun _ _ tracks covered => (tracks.report_booked_iff covered).1)
    (tracks_start pair) (tracks_start pair).booked covered

/-- Two tokens are bought for 20 dollars. -/
def bought : Execution where
  pair := "ETH/USDT"
  side := .buy
  entryPrice := 10
  allocationUsd := some 20
  pnl := none
  exitPrice := none

/-- Tokens are sold at 12 dollars each. -/
def sold (proceeds : ℚ) : Execution :=
  { bought with side := .sell, entryPrice := 12, allocationUsd := some proceeds }

theorem booked_soldWhole : Always (report "ETH/USDT") (Booked "ETH/USDT") [bought, sold 24] start :=
  (booked_iff_sellsOldest "ETH/USDT" [bought, sold 24] (by decide +kernel)).mpr
    ⟨by decide +kernel, by decide +kernel, trivial⟩

/-- One of the two tokens is sold, at a profit of two dollars: eight dollars of loss are booked and
the cost of the other token is on no row. -/
theorem not_booked_soldHalf :
    Along (report "ETH/USDT") (Covered "ETH/USDT") [bought, sold 12] start ∧
      ¬ Booked "ETH/USDT" (report "ETH/USDT" (sold 12) (report "ETH/USDT" bought start)) := by
  decide +kernel

end Course

end GdslExchange.Trades
