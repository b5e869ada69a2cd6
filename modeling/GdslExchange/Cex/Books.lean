/-
This file keeps books beside the config row: what a call has had filled on the exchange, and what
has been bought less what has been sold of the base of the lot since it was opened, under either
quote.

The books derive the base from a symbol as the symbol resolver does.
-/

import GdslExchange.Async.Alone
import GdslExchange.Cex.Trading

namespace GdslExchange.Cex

open Async Async.Program

/-! ### Books -/

/-- What an order has been filled with. -/
structure Execution where
  symbol : String
  side : Side
  qty : ℚ
deriving DecidableEq

/-- The base of the lot that was opened last and what has been bought of it less what has been
sold, the balances that the call has read, what it has had filled, and whether it has cleared the
lot without that. -/
structure Books where
  base : String
  net : ℚ
  balances : List AdapterBalance
  filled : Option Execution
  dropped : Bool

namespace Books

variable (books : Books)

def begin : Books := { books with balances := [], filled := none, dropped := false }

def fill (execution : Execution) : Books :=
  { books with
    net :=
      if baseFromCexSymbol execution.symbol = books.base then
        match execution.side with
        | .buy => books.net + execution.qty
        | .sell => books.net - execution.qty
      else books.net
    filled := some execution }

def openLot (symbol : String) : Books :=
  { books with
    base := baseFromCexSymbol symbol
    net := (books.filled.map Execution.qty).getD 0 }

def enter : Write → Books
  | .councilBuy lot => books.openLot lot.symbol
  | .manualOpen lot => books.openLot lot.symbol
  | .clearOpenLot => { books with dropped := books.dropped || books.filled.isNone }
  | _ => books

end Books

def execution (request : OrderRequest) (placed : PlacedOrder) : Execution :=
  ⟨request.symbol, request.side, placed.filledQuantity.getD 0⟩

def track : (op : Op) → Fate op → Books → Books
  | .placeOrder request, .ok placed, books => books.fill (execution request placed)
  | .getBalances _, .ok balances, books => { books with balances := balances }
  | .write data, delivery, books => if delivery.Applies then books.enter data else books
  | _, _, books => books

/-! ### Rows and books -/

/-- The two columns that say what is tracked. -/
def ConfigRow.shown (row : ConfigRow) : Option String × ℚ :=
  (row.openSymbol, row.openBaseQty.getD 0)

/-- What is tracked of a lot is at most what has been bought of its base less what has been
sold. -/
def Books.Covers (books : Books) (shown : Option String × ℚ) : Prop :=
  ∀ symbol, shown.1 = some symbol →
    baseFromCexSymbol symbol = books.base ∧ (0 < shown.2 → shown.2 ≤ books.net)

/-- What the row shows, if there is one. -/
def Machine.shown (machine : Machine) : Option (Option String × ℚ) :=
  machine.row.map ConfigRow.shown

abbrev Course := Machine × Books

def Course.Covered (course : Course) : Prop := ∀ shown ∈ course.1.shown, course.2.Covers shown

/-- A call that clears a lot without a sale has read a balance of its base that is next to
nothing. -/
def Books.Fair (books : Books) (lot : Option CexOpenLong) : Prop :=
  books.dropped = true → ∀ long ∈ lot,
    long.IsGhost (freeAsset books.balances (baseFromCexSymbol long.symbol))

/-- A sale of the base of a lot takes what it was filled with off what is tracked, or flattens it
where at most a twentieth would be left. -/
def Reduces (before : Option (Option String × ℚ)) (course : Course) : Prop :=
  ∀ sale ∈ course.2.filled, sale.side = .sell → 0 < sale.qty →
    ∀ shown ∈ before, ∀ symbol, shown.1 = some symbol →
      baseFromCexSymbol sale.symbol = baseFromCexSymbol symbol → 0 < shown.2 →
        ∃ after ∈ course.1.shown, after = (some symbol, shown.2 - sale.qty) ∨
          after.1 = none ∧ shown.2 - sale.qty ≤ shown.2 * (5 / 100)

section Facts

variable {books : Books} {shown : Option String × ℚ}

theorem covers_flat {qty : ℚ} : books.Covers (none, qty) := nofun

/-- What is bought is covered. -/
theorem covers_fill_buy {execution : Execution} (covers : books.Covers shown)
    (isBuy : execution.side = .buy) (nonneg : 0 ≤ execution.qty) :
    (books.fill execution).Covers shown := by
  intro symbol isSymbol
  obtain ⟨isBase, covered⟩ := covers symbol isSymbol
  refine ⟨isBase, fun positive => (covered positive).trans ?_⟩
  unfold Books.fill
  rw [isBuy]
  split
  · linarith
  · exact le_rfl

/-- What is sold is covered where it is taken off what is tracked. -/
theorem covers_fill_sell {execution : Execution} {symbol : String} {qty rest : ℚ}
    (covers : books.Covers (some symbol, qty)) (isSell : execution.side = .sell)
    (positive : 0 < qty) (isRest : 0 < rest → rest ≤ qty - execution.qty)
    (isLess : 0 < rest → rest ≤ qty) :
    (books.fill execution).Covers (some symbol, rest) := by
  rintro _ ⟨⟩
  obtain ⟨isBase, covered⟩ := covers symbol rfl
  refine ⟨isBase, fun left => ?_⟩
  have bound := covered positive
  unfold Books.fill
  rw [isSell]
  split
  · exact (isRest left).trans (by linarith)
  · exact (isLess left).trans bound

theorem covers_openLot {execution : Execution} (isFilled : books.filled = some execution)
    {symbol : String} {qty : ℚ} (isQty : qty = execution.qty) :
    (books.openLot symbol).Covers (some symbol, qty) := by
  rintro _ ⟨⟩
  refine ⟨rfl, fun _ => ?_⟩
  unfold Books.openLot
  rw [isFilled, isQty]
  exact le_rfl

end Facts

end GdslExchange.Cex
