/-
This file settles when the book of self-custody trades conserves tokens and dollars: for a
BUY whose price in units of what it spent is its price in dollars, and for a SELL of no more
than the oldest lot that is still open, up to half a dollar that a lot may drop when it closes.

Every fill is booked in one lot, so the totals of the fills are those of the lots, and it is
enough to balance each lot.
-/

import GdslExchange.JupiterBrowser.Swap

namespace GdslExchange.JupiterBrowser

open Async (Delivery Stored)
open Async.Program hiding await
open Jupiter (Side TradeStatus roundTripRealizedPnl)
open Numeric

/-! ### Bookings one after another -/

/-- Every call to the store is answered. -/
def answering : (op : Op) → Fate op
  | .storeBuild _ => (0 : ℕ)
  | .submitJupiterExecute _ _ => (0 : ℕ)
  | .ensureSelfCustodyStrategyId => Delivery.answered
  | .findOpenTrade _ _ => Delivery.answered
  | .createTrade _ _ => Delivery.answered
  | .updateTrade _ _ _ => Delivery.answered
  | .hearExecute _ => .error ""
  | .getJupiterTradableToken _ => .error ""
  | .listSolanaHoldingsForOwner _ => .error ""
  | .fetchJupiterPricesV3 _ => .error ""
  | .getJupiterOrder _ => .error ""

/-- Executed builds are booked one after another. -/
def bookAll (fills : List (Stored BuildContext)) : Call Unit :=
  forEach (fun fill => do let _ ← bookTrade fill.id fill.row) fills

/-- The book that executed builds make of an empty one. -/
def bookOf (fills : List (Stored BuildContext)) : List Trade :=
  ((bookAll fills).exec answering .empty).1.trades

/-! ### What a book should conserve -/

namespace BuildContext

variable (ctx : BuildContext)

def tokensBought : ℚ := if ctx.side = .buy then ctx.expectedOutHuman else 0

def tokensSold : ℚ := if ctx.side = .sell then ctx.amountInHuman else 0

def usdPaid : ℚ := if ctx.side = .buy then ctx.usdValue else 0

def usdReceived : ℚ := if ctx.side = .sell then ctx.expectedOutHuman else 0

/-- The dollars a BUY paid for a token. -/
def usdPrice : ℚ := ctx.usdValue / ctx.expectedOutHuman

def tokenDust : ℚ := if ctx.side = .buy then 1 / 2 / ctx.usdPrice else 0

/-- Half a unit of the eighth decimal, and half a dollar for a lot. -/
def usdDust : ℚ := (if ctx.side = .buy then 1 / 2 else 0) + 1 / (2 * 10 ^ 8)

end BuildContext

namespace Trade

variable (trade : Trade)

def openAllocation : ℚ := if trade.status = .open then trade.allocationUsd.getD 0 else 0

def openTokens : ℚ := trade.openAllocation / trade.entryPrice

def banked : ℚ := trade.pnl.getD 0

end Trade

/-- Allocation and entry price of the OPEN rows give the tokens that were bought and not sold, and
the pnl of the rows is what the sells brought in without the cost of what they sold. -/
structure Conserves (fills : List BuildContext) (trades : List Trade) : Prop where
  tokens : |(trades.map Trade.openTokens).sum - ((fills.map BuildContext.tokensBought).sum -
    (fills.map BuildContext.tokensSold).sum)| ≤ (fills.map BuildContext.tokenDust).sum
  pnl : |(trades.map Trade.banked).sum - ((fills.map BuildContext.usdReceived).sum -
    ((fills.map BuildContext.usdPaid).sum - (trades.map Trade.openAllocation).sum))| ≤
      (fills.map BuildContext.usdDust).sum

def BuildContext.isOf (userId pair : String) (ctx : BuildContext) : Bool :=
  ctx.userId = userId ∧ ctx.pair = pair

def Trade.isOf (userId pair : String) (trade : Trade) : Bool :=
  trade.userId = userId ∧ trade.pair = pair

/-! ### Lots -/

/-- A row and the fills that made it. -/
structure Lot where
  row : Trade
  first : BuildContext
  sells : List BuildContext

/-- A SELL looks for this row. -/
def BuildContext.finds (ctx : BuildContext) (row : Trade) : Bool :=
  row.userId = ctx.userId ∧ row.pair = ctx.pair ∧ row.status = .open

/-- The row of a fill that touches no other. -/
def BuildContext.ownRow (ctx : BuildContext) : Trade :=
  match ctx.side with
  | .buy => ctx.buyRow
  | .sell => ctx.strayRow

namespace Lot

def ofFill (ctx : BuildContext) : Lot := ⟨ctx.ownRow, ctx, []⟩

def sell (lot : Lot) (ctx : BuildContext) : Lot :=
  { lot with row := (ctx.sellPatch lot.row).apply lot.row, sells := lot.sells ++ [ctx] }

def total (amount : BuildContext → ℚ) (lot : Lot) : ℚ :=
  amount lot.first + (lot.sells.map amount).sum

def held : Lot → ℚ := total fun ctx => ctx.tokensBought - ctx.tokensSold

end Lot

/-- The oldest lot that a SELL finds takes it. -/
def sellFrom (ctx : BuildContext) : List Lot → List Lot
  | [] => [.ofFill ctx]
  | lot :: rest => if ctx.finds lot.row then lot.sell ctx :: rest else lot :: sellFrom ctx rest

/-- The lots after a fill. -/
def assign (lots : List Lot) (ctx : BuildContext) : List Lot :=
  match ctx.side with
  | .buy => lots ++ [.ofFill ctx]
  | .sell => sellFrom ctx lots

/-! ### Fills that fit -/

namespace BuildContext

variable (ctx : BuildContext)

/-- A BUY is booked with tokens that are worth half a dollar more or less than those it bought. -/
def BuyFits : Prop :=
  0 < ctx.amountInHuman ∧ 1 / 10 ^ 18 < ctx.expectedOutHuman ∧ 0 < ctx.usdValue ∧
    |ctx.allocationUsd / ctx.effectivePrice - ctx.expectedOutHuman| * ctx.usdPrice ≤ 1 / 2

/-- A SELL that leaves a lot less than a twentieth, or half a dollar, leaves no more than half a
dollar of its tokens, and takes half a dollar more or less than what is booked. -/
def SellFits (lot : Lot) : Prop :=
  let booked := lot.row.openTokens
  let sold := ctx.amountInHuman
  1 / 10 ^ 18 < sold ∧ 0 < ctx.expectedOutHuman ∧
    (booked * (95 / 100) ≤ sold ∨ (booked - sold) * lot.row.entryPrice ≤ 1 / 2 →
      |lot.held - sold| * lot.first.usdPrice ≤ 1 / 2) ∧
    (booked * (95 / 100) ≤ sold → |booked - sold| * ctx.effectivePrice ≤ 1 / 2)

/-- A BUY fits by itself, and a SELL the oldest OPEN lot. -/
def Fits (lots : List Lot) : Prop :=
  match ctx.side with
  | .buy => ctx.BuyFits
  | .sell => ∃ lot ∈ lots.find? (fun lot => ctx.finds lot.row), ctx.SellFits lot

instance (lots : List Lot) : Decidable (ctx.Fits lots) := by
  unfold Fits BuyFits SellFits
  cases ctx.side <;> infer_instance

end BuildContext

def AllFit : List Lot → List BuildContext → Prop
  | _, [] => True
  | lots, ctx :: later => ctx.Fits lots ∧ AllFit (assign lots ctx) later

instance AllFit.decidable : (lots : List Lot) → (fills : List BuildContext) →
    Decidable (AllFit lots fills)
  | _, [] => .isTrue trivial
  | lots, ctx :: later =>
    have := AllFit.decidable (assign lots ctx) later
    inferInstanceAs (Decidable (_ ∧ _))

/-! ### The oldest row -/

theorem findOpen_row {userId pair : String} {trades : List Trade} {found : Stored Trade}
    (isFound : findOpen userId pair trades = some found) :
    trades[found.id]? = some found.row := by
  obtain ⟨position, bound, isStored⟩ := List.mem_mapIdx.mp (List.mem_of_find?_eq_some isFound)
  rw [← isStored]
  exact List.getElem?_eq_getElem bound

section Oldest

variable (ctx : BuildContext)

/-- A SELL updates the oldest row it finds, and has a row of its own otherwise. -/
def sellInto : List Trade → List Trade
  | [] => [ctx.strayRow]
  | row :: rest =>
    if ctx.finds row then (ctx.sellPatch row).apply row :: rest else row :: sellInto rest

/-- The book after a fill. -/
def BuildContext.book (trades : List Trade) : List Trade :=
  match ctx.side with
  | .buy => trades ++ [ctx.buyRow]
  | .sell => sellInto ctx trades

theorem findOpen_cons (row : Trade) (rest : List Trade) :
    findOpen ctx.userId ctx.pair (row :: rest) =
      if ctx.finds row then some ⟨0, row⟩
      else (findOpen ctx.userId ctx.pair rest).map fun found => ⟨found.id + 1, found.row⟩ := by
  have later : (rest.mapIdx fun id row => (⟨id + 1, row⟩ : Stored Trade)) =
      (rest.mapIdx fun id row => (⟨id, row⟩ : Stored Trade)).map
        fun found => ⟨found.id + 1, found.row⟩ := by
    rw [List.mapIdx_eq_zipIdx_map, List.mapIdx_eq_zipIdx_map, List.map_map]
    rfl
  unfold findOpen BuildContext.finds
  rw [List.mapIdx_cons, List.find?_cons, later, List.find?_map]
  split
  · rename_i isFound
    rw [if_pos isFound]
  · rename_i notFound
    rw [if_neg (ne_true_of_eq_false notFound)]
    rfl

theorem sellInto_eq (trades : List Trade) :
    sellInto ctx trades = match findOpen ctx.userId ctx.pair trades with
      | some found => trades.set found.id ((ctx.sellPatch found.row).apply found.row)
      | none => trades ++ [ctx.strayRow] := by
  induction trades with
  | nil => rfl
  | cons row rest inductionHypothesis =>
    rw [findOpen_cons, sellInto, inductionHypothesis]
    by_cases isFound : ctx.finds row
    · rw [if_pos isFound, if_pos isFound]
      rfl
    · rw [if_neg isFound, if_neg isFound]
      cases findOpen ctx.userId ctx.pair rest with
      | none => rfl
      | some found => rfl

theorem exec_findOpenTrade (userId pair : String) (desk : Desk) :
    (await (.findOpenTrade userId pair)).exec answering desk =
      (desk, .ok (findOpen userId pair desk.trades)) :=
  exec_perform _ _

theorem exec_updateTrade {build : ℕ} {patch : TradePatch} {found : Stored Trade} {desk : Desk}
    (isRow : desk.trades[found.id]? = some found.row) :
    (await (.updateTrade build found.id patch)).exec answering desk =
      (desk.write build (desk.trades.set found.id (patch.apply found.row)),
        .ok ⟨found.id, patch.apply found.row⟩) := by
  refine (exec_perform _ _).trans ?_
  show perform (.updateTrade build found.id patch) Delivery.answered desk = _
  simp only [perform, isRow]
  rfl

theorem exec_bookTrade (build : ℕ) (desk : Desk) :
    ∃ booked, (bookTrade build ctx).exec answering desk =
      (desk.write build (ctx.book desk.trades), .ok booked) := by
  unfold bookTrade BuildContext.book
  cases ctx.side with
  | buy => exact ⟨_, rfl⟩
  | sell =>
    simp only [sellInto_eq]
    rw [exec_bind_ok (exec_findOpenTrade ctx.userId ctx.pair desk)]
    cases isFound : findOpen ctx.userId ctx.pair desk.trades with
    | none => exact ⟨_, rfl⟩
    | some found => exact ⟨_, exec_updateTrade (findOpen_row isFound)⟩

end Oldest

theorem exec_bookAll (fills : List (Stored BuildContext)) (desk : Desk) :
    ((bookAll fills).exec answering desk).1.trades =
      (fills.map Stored.row).foldl (fun trades ctx => ctx.book trades) desk.trades := by
  induction fills generalizing desk with
  | nil => rfl
  | cons fill rest inductionHypothesis =>
    obtain ⟨booked, ran⟩ := exec_bookTrade fill.row fill.id desk
    show (((bookTrade fill.id fill.row >>= fun _ => pure ()) >>= fun _ => bookAll rest).exec
      answering desk).1.trades = _
    rw [exec_bind_ok ((exec_bind_ok ran).trans rfl), inductionHypothesis]
    rfl

/-! ### One user and one pair -/

section Mine

variable {userId pair : String} {ctx : BuildContext}

theorem finds_isOf {row : Trade} (isFound : ctx.finds row) :
    row.isOf userId pair = ctx.isOf userId pair := by
  obtain ⟨sameUser, samePair, -⟩ := of_decide_eq_true isFound
  unfold Trade.isOf BuildContext.isOf
  rw [sameUser, samePair]

theorem filter_sellInto (trades : List Trade) :
    (sellInto ctx trades).filter (Trade.isOf userId pair) =
      if ctx.isOf userId pair then sellInto ctx (trades.filter (Trade.isOf userId pair))
      else trades.filter (Trade.isOf userId pair) := by
  have stray : ctx.strayRow.isOf userId pair = ctx.isOf userId pair := rfl
  induction trades with
  | nil =>
    rw [sellInto, List.filter_singleton, stray]
    cases ctx.isOf userId pair <;> rfl
  | cons row rest inductionHypothesis =>
    rw [sellInto]
    by_cases isFound : ctx.finds row
    · have isMine : row.isOf userId pair = ctx.isOf userId pair := finds_isOf isFound
      have stays : ((ctx.sellPatch row).apply row).isOf userId pair = ctx.isOf userId pair := isMine
      rw [if_pos isFound, List.filter_cons, List.filter_cons, isMine, stays]
      split
      · rw [sellInto, if_pos isFound]
      · rfl
    · rw [if_neg isFound, List.filter_cons, List.filter_cons, inductionHypothesis]
      split
      · split
        · rw [sellInto, if_neg isFound]
        · rfl
      · rfl

theorem filter_book (trades : List Trade) :
    (ctx.book trades).filter (Trade.isOf userId pair) =
      if ctx.isOf userId pair then ctx.book (trades.filter (Trade.isOf userId pair))
      else trades.filter (Trade.isOf userId pair) := by
  have own : ctx.buyRow.isOf userId pair = ctx.isOf userId pair := rfl
  unfold BuildContext.book
  cases ctx.side with
  | buy =>
    simp only
    rw [List.filter_append, List.filter_singleton, own]
    cases ctx.isOf userId pair
    · exact List.append_nil _
    · rfl
  | sell => exact filter_sellInto trades

/-- The rows of a user and a pair are those that their fills alone would make. -/
theorem filter_foldl_book (fills : List BuildContext) (trades : List Trade) :
    (fills.foldl (fun trades ctx => ctx.book trades) trades).filter (Trade.isOf userId pair) =
      (fills.filter (BuildContext.isOf userId pair)).foldl (fun trades ctx => ctx.book trades)
        (trades.filter (Trade.isOf userId pair)) := by
  induction fills generalizing trades with
  | nil => rfl
  | cons ctx later inductionHypothesis =>
    rw [List.foldl_cons, inductionHypothesis, filter_book, List.filter_cons]
    split
    · rfl
    · rfl

end Mine

/-! ### Attribution -/

section Attribution

variable (ctx : BuildContext)

theorem rows_assign (lots : List Lot) :
    (assign lots ctx).map Lot.row = ctx.book (lots.map Lot.row) := by
  unfold assign BuildContext.book
  cases isSide : ctx.side with
  | buy =>
    simp only [List.map_append, List.map_singleton, Lot.ofFill, BuildContext.ownRow, isSide]
  | sell =>
    simp only
    induction lots with
    | nil => simp only [sellFrom, sellInto, List.map, Lot.ofFill, BuildContext.ownRow, isSide]
    | cons lot rest inductionHypothesis =>
      rw [sellFrom, List.map_cons, sellInto]
      split
      · rfl
      · rw [List.map_cons, inductionHypothesis]

theorem rows_foldl (fills : List BuildContext) (lots : List Lot) :
    (fills.foldl assign lots).map Lot.row =
      fills.foldl (fun trades ctx => ctx.book trades) (lots.map Lot.row) := by
  induction fills generalizing lots with
  | nil => rfl
  | cons ctx later inductionHypothesis =>
    rw [List.foldl_cons, inductionHypothesis, rows_assign]
    rfl

variable (amount : BuildContext → ℚ)

theorem total_ofFill : (Lot.ofFill ctx).total amount = amount ctx := add_zero _

theorem total_sell (lot : Lot) : (lot.sell ctx).total amount = lot.total amount + amount ctx := by
  unfold Lot.total Lot.sell
  rw [List.map_append, List.sum_append, List.map_singleton, List.sum_singleton, add_assoc]

theorem sum_assign (lots : List Lot) :
    ((assign lots ctx).map (Lot.total amount)).sum =
      (lots.map (Lot.total amount)).sum + amount ctx := by
  unfold assign
  cases ctx.side with
  | buy =>
    simp only [List.map_append, List.sum_append, List.map_singleton, List.sum_singleton,
      total_ofFill]
  | sell =>
    simp only
    induction lots with
    | nil => simp only [sellFrom, List.map, List.sum_cons, List.sum_nil, total_ofFill, add_comm]
    | cons lot rest inductionHypothesis =>
      rw [sellFrom, List.map_cons, List.sum_cons]
      split
      · rw [List.map_cons, List.sum_cons, total_sell]
        ring
      · rw [List.map_cons, List.sum_cons, inductionHypothesis, add_assoc]

theorem sum_foldl (fills : List BuildContext) (lots : List Lot) :
    ((fills.foldl assign lots).map (Lot.total amount)).sum =
      (lots.map (Lot.total amount)).sum + (fills.map amount).sum := by
  induction fills generalizing lots with
  | nil => exact (add_zero _).symm
  | cons ctx later inductionHypothesis =>
    rw [List.foldl_cons, inductionHypothesis, sum_assign, List.map_cons, List.sum_cons, add_assoc]

end Attribution

/-! ### One lot -/

section Amounts

variable {ctx : BuildContext}

theorem amounts_of_buy (isBuy : ctx.side = .buy) :
    ctx.tokensBought - ctx.tokensSold = ctx.expectedOutHuman ∧
      ctx.usdReceived - ctx.usdPaid = -ctx.usdValue ∧ ctx.tokenDust = 1 / 2 / ctx.usdPrice ∧
        ctx.usdDust = 1 / 2 + 1 / (2 * 10 ^ 8) := by
  simp [BuildContext.tokensBought, BuildContext.tokensSold, BuildContext.usdReceived,
    BuildContext.usdPaid, BuildContext.tokenDust, BuildContext.usdDust, isBuy]

theorem amounts_of_sell (isSell : ctx.side = .sell) :
    ctx.tokensBought - ctx.tokensSold = -ctx.amountInHuman ∧
      ctx.usdReceived - ctx.usdPaid = ctx.expectedOutHuman ∧ ctx.tokenDust = 0 ∧
        ctx.usdDust = 1 / (2 * 10 ^ 8) := by
  simp [BuildContext.tokensBought, BuildContext.tokensSold, BuildContext.usdReceived,
    BuildContext.usdPaid, BuildContext.tokenDust, BuildContext.usdDust, isSell]

end Amounts

/-- The unit by which the realized profit of a sell may be off. -/
theorem roundTripRealizedPnl_near {allocation entry exit : ℚ} (nonneg : 0 ≤ allocation)
    (entered : 0 < entry) (exited : 0 < exit) :
    |roundTripRealizedPnl allocation entry exit - (allocation / entry * exit - allocation)| ≤
      1 / (2 * 10 ^ 8) := by
  have same : allocation * (exit / entry - 1) = allocation / entry * exit - allocation := by
    field_simp
  unfold roundTripRealizedPnl
  split
  · rename_i degenerate
    have isZero : allocation = 0 := by
      rcases degenerate with none | none | none <;> linarith
    rw [isZero]
    norm_num
  · rw [same, abs_le]
    have above := roundTo_le 8 (allocation / entry * exit - allocation)
    have below := lt_roundTo 8 (allocation / entry * exit - allocation)
    constructor <;> linarith

/-- What a lot is booked with is what its fills left of it, and what it earned is what its sells
brought in without the cost of what they sold. -/
structure Lot.Balanced (lot : Lot) : Prop where
  entry : 0 < lot.row.entryPrice
  allocation : 0 ≤ lot.row.openAllocation
  price : 0 < lot.first.usdPrice
  dust : lot.total BuildContext.tokenDust = 1 / 2 / lot.first.usdPrice
  tokens : |lot.row.openTokens - lot.held| * lot.first.usdPrice ≤ 1 / 2
  pnl : |lot.row.banked - lot.row.openAllocation -
    lot.total (fun ctx => ctx.usdReceived - ctx.usdPaid)| +
      (if lot.row.status = .open then 1 / 2 else 0) ≤ lot.total BuildContext.usdDust

section OneLot

variable {ctx : BuildContext} {lot : Lot}

theorem balanced_ofFill (isBuy : ctx.side = .buy) (fits : ctx.BuyFits) :
    (Lot.ofFill ctx).Balanced := by
  obtain ⟨spent, received, paid, near⟩ := fits
  have received' : 0 < ctx.expectedOutHuman := lt_trans (by norm_num) received
  have isRow : (Lot.ofFill ctx).row = ctx.buyRow := by
    simp only [Lot.ofFill, BuildContext.ownRow, isBuy]
  have isPrice : ctx.effectivePrice = ctx.amountInHuman / ctx.expectedOutHuman := by
    simp only [BuildContext.effectivePrice, isBuy, if_pos received]
  have nonneg : 0 ≤ ctx.allocationUsd := by
    have rounded := round_nonneg (mul_nonneg (le_max_left 0 ctx.usdValue) (by norm_num :
      (0 : ℚ) ≤ 10 ^ 8))
    unfold BuildContext.allocationUsd roundTo
    positivity
  have isAllocation : ctx.buyRow.openAllocation = ctx.allocationUsd := by
    simp only [Trade.openAllocation, BuildContext.buyRow, BuildContext.allocationColumn, if_true]
    split
    · rfl
    · exact le_antisymm nonneg (not_lt.mp ‹_›)
  have rounding : |ctx.usdValue - ctx.allocationUsd| ≤ 1 / (2 * 10 ^ 8) := by
    have above := roundTo_le 8 ctx.usdValue
    have below := lt_roundTo 8 ctx.usdValue
    unfold BuildContext.allocationUsd
    rw [max_eq_right paid.le, abs_le]
    constructor <;> linarith
  obtain ⟨isBought, isPaid, isDust, isAllowed⟩ := amounts_of_buy isBuy
  refine ⟨?_, ?_, div_pos paid received', ?_, ?_, ?_⟩
  · rw [isRow]
    show 0 < ctx.effectivePrice
    rw [isPrice]
    exact div_pos spent received'
  · rw [isRow, isAllocation]
    exact nonneg
  · rw [total_ofFill]
    exact isDust
  · rw [isRow, Lot.held, total_ofFill, Trade.openTokens, isAllocation]
    rw [isBought]
    exact near
  · rw [isRow, isAllocation, total_ofFill, total_ofFill, isPaid, isAllowed]
    have banked : ctx.buyRow.banked = 0 := rfl
    have isOpen : ctx.buyRow.status = .open := rfl
    rw [banked, if_pos isOpen, zero_sub, sub_neg_eq_add, neg_add_eq_sub,
      add_comm]
    exact add_le_add_right rounding _

theorem sell_cases (isOpen : lot.row.status = .open) (balanced : lot.Balanced)
    (sold : 0 < ctx.amountInHuman) :
    let booked := lot.row.openTokens
    let entry := lot.row.entryPrice
    let row := (lot.sell ctx).row
    row.entryPrice = entry ∧
      ((booked * (95 / 100) ≤ ctx.amountInHuman ∧ row.status = .closed ∧
          row.banked = lot.row.banked +
            roundTripRealizedPnl lot.row.openAllocation entry ctx.effectivePrice) ∨
        (ctx.amountInHuman < booked * (95 / 100) ∧
          row.banked = lot.row.banked +
            roundTripRealizedPnl (ctx.amountInHuman * entry) entry ctx.effectivePrice ∧
          (((booked - ctx.amountInHuman) * entry ≤ 1 / 2 ∧ row.status = .closed) ∨
            (row.status = .open ∧
              row.openAllocation = lot.row.openAllocation - ctx.amountInHuman * entry)))) := by
  have entered := balanced.entry
  have isAllocation : lot.row.allocationUsd.getD 0 = lot.row.openAllocation := by
    rw [Trade.openAllocation, if_pos isOpen]
  have isBooked : (if lot.row.entryPrice > 0 then
      lot.row.openAllocation / lot.row.entryPrice else 0) = lot.row.openTokens := if_pos entered
  have nonneg : 0 ≤ lot.row.openTokens := div_nonneg balanced.allocation entered.le
  have isWorth : lot.row.openTokens * lot.row.entryPrice = lot.row.openAllocation :=
    div_mul_cancel₀ _ entered.ne'
  refine ⟨rfl, ?_⟩
  simp only [Lot.sell, BuildContext.sellPatch, isAllocation, isBooked]
  rcases le_or_gt (lot.row.openTokens * (95 / 100)) ctx.amountInHuman with full | isPart
  · refine Or.inl ⟨full, ?_, ?_⟩
    · simp [TradePatch.apply, full.not_gt]
    · simp [TradePatch.apply, full.not_gt, Trade.banked]
  · have some_ : 0 < lot.row.openTokens := by linarith
    have isFraction : min (95 / 100) (ctx.amountInHuman / lot.row.openTokens) =
        ctx.amountInHuman / lot.row.openTokens := by
      refine min_eq_right ?_
      rw [div_le_iff₀ some_]
      linarith
    have isClosed : lot.row.openAllocation * (ctx.amountInHuman / lot.row.openTokens) =
        ctx.amountInHuman * lot.row.entryPrice := by
      rw [← isWorth]
      field_simp
    have isLeft : max 0 (lot.row.openAllocation - ctx.amountInHuman * lot.row.entryPrice) =
        (lot.row.openTokens - ctx.amountInHuman) * lot.row.entryPrice := by
      rw [sub_mul, isWorth, max_eq_right]
      rw [← isWorth, ← sub_mul]
      exact mul_nonneg (by linarith) entered.le
    have isPartial : decide (lot.row.openTokens > 0 ∧
        ctx.amountInHuman < lot.row.openTokens * (95 / 100)) = true := decide_eq_true ⟨some_, isPart⟩
    refine Or.inr ⟨isPart, ?_, ?_⟩
    · simp only [isPartial, if_true, isFraction, isClosed]
      rfl
    · simp only [isPartial, if_true, isFraction, isClosed, isLeft, true_and]
      rcases le_or_gt ((lot.row.openTokens - ctx.amountInHuman) * lot.row.entryPrice) (1 / 2)
        with crumbs | rest
      · refine Or.inl ⟨crumbs, ?_⟩
        simp only [TradePatch.apply, gt_iff_lt, crumbs.not_gt, decide_false, Bool.false_eq_true,
          if_false]
      · refine Or.inr ?_
        have remains : lot.row.openAllocation - ctx.amountInHuman * lot.row.entryPrice =
            (lot.row.openTokens - ctx.amountInHuman) * lot.row.entryPrice := by
          rw [sub_mul, isWorth]
        rw [remains]
        simp only [TradePatch.apply, gt_iff_lt, rest, decide_true, if_true, true_and]
        rfl

theorem Lot.Balanced.sell (balanced : lot.Balanced) (isOpen : lot.row.status = .open)
    (isSell : ctx.side = .sell) (fits : ctx.SellFits lot) : (lot.sell ctx).Balanced := by
  obtain ⟨size, received, leaves, takes⟩ := fits
  have sold : 0 < ctx.amountInHuman := lt_trans (by norm_num) size
  have entered := balanced.entry
  have isExit : ctx.effectivePrice = ctx.expectedOutHuman / ctx.amountInHuman := by
    simp only [BuildContext.effectivePrice, isSell, if_pos size]
  have exited : 0 < ctx.effectivePrice := by
    rw [isExit]
    exact div_pos received sold
  have proceeds : ctx.amountInHuman * ctx.effectivePrice = ctx.expectedOutHuman := by
    rw [isExit]
    exact mul_div_cancel₀ _ sold.ne'
  have isWorth : lot.row.openTokens * lot.row.entryPrice = lot.row.openAllocation :=
    div_mul_cancel₀ _ entered.ne'
  obtain ⟨isSold, isReceived, noDust, isAllowed⟩ := amounts_of_sell isSell
  have isHeld : (lot.sell ctx).held = lot.held - ctx.amountInHuman := by
    rw [Lot.held, total_sell, isSold, sub_eq_add_neg]
  have isDust : (lot.sell ctx).total BuildContext.tokenDust = 1 / 2 / lot.first.usdPrice := by
    rw [total_sell, balanced.dust, noDust, add_zero]
  have isTokens : lot.row.openAllocation / lot.row.entryPrice = lot.row.openTokens := rfl
  have before := balanced.pnl
  rw [if_pos isOpen, ← le_sub_iff_add_le, abs_le] at before
  obtain ⟨sameEntry, cases⟩ := sell_cases isOpen balanced sold
  have enteredStill : 0 < (lot.sell ctx).row.entryPrice := sameEntry ▸ entered
  have closes : (lot.sell ctx).row.status = .closed →
      (lot.sell ctx).row.openAllocation = 0 ∧ (lot.sell ctx).row.openTokens = 0 := by
    intro isClosed
    have none : (lot.sell ctx).row.openAllocation = 0 := by
      rw [Trade.openAllocation, isClosed]
      rfl
    exact ⟨none, by rw [Trade.openTokens, none, zero_div]⟩
  rcases cases with ⟨full, isClosed, banked⟩ | ⟨isPart, banked, rest⟩
  · obtain ⟨noAllocation, noTokens⟩ := closes isClosed
    have rounding := roundTripRealizedPnl_near balanced.allocation entered exited
    have slippage : |lot.row.openTokens * ctx.effectivePrice - ctx.expectedOutHuman| ≤ 1 / 2 := by
      rw [← proceeds, ← sub_mul, abs_mul, abs_of_pos exited]
      exact takes full
    refine ⟨enteredStill, noAllocation.ge, balanced.price, isDust, ?_, ?_⟩
    · rw [noTokens, isHeld, zero_sub, abs_neg]
      exact leaves (Or.inl full)
    · rw [noAllocation, total_sell, total_sell, isReceived, isAllowed, banked, isClosed,
        if_neg (by decide), add_zero]
      rw [isTokens, abs_le] at rounding
      rw [abs_le] at slippage ⊢
      constructor <;> linarith
  · have rounding := roundTripRealizedPnl_near (mul_pos sold entered).le entered exited
    rw [mul_div_cancel_right₀ _ entered.ne', proceeds, abs_le] at rounding
    rcases rest with ⟨crumbs, isClosed⟩ | ⟨stillOpen, isAllocation⟩
    · obtain ⟨noAllocation, noTokens⟩ := closes isClosed
      have some_ : 0 ≤ (lot.row.openTokens - ctx.amountInHuman) * lot.row.entryPrice := by
        refine mul_nonneg ?_ entered.le
        linarith
      refine ⟨enteredStill, noAllocation.ge, balanced.price, isDust, ?_, ?_⟩
      · rw [noTokens, isHeld, zero_sub, abs_neg]
        exact leaves (Or.inr crumbs)
      · rw [noAllocation, total_sell, total_sell, isReceived, isAllowed, banked, isClosed,
          if_neg (by decide), add_zero, abs_le]
        rw [sub_mul, isWorth] at crumbs some_
        constructor <;> linarith
    · have isLeft : (lot.sell ctx).row.openTokens = lot.row.openTokens - ctx.amountInHuman := by
        rw [Trade.openTokens, isAllocation, sameEntry, sub_div, mul_div_cancel_right₀ _ entered.ne']
        rfl
      refine ⟨enteredStill, ?_, balanced.price, isDust, ?_, ?_⟩
      · rw [isAllocation, ← isWorth, ← sub_mul]
        refine mul_nonneg ?_ entered.le
        linarith
      · rw [isLeft, isHeld, sub_sub_sub_cancel_right]
        exact balanced.tokens
      · rw [isAllocation, total_sell, total_sell, isReceived, isAllowed, banked,
          if_pos stillOpen, ← le_sub_iff_add_le, abs_le]
        constructor <;> linarith

end OneLot

/-! ### All lots -/

theorem mem_sellFrom {ctx : BuildContext} {lots : List Lot} {found lot : Lot}
    (isFound : lots.find? (fun lot => ctx.finds lot.row) = some found)
    (member : lot ∈ sellFrom ctx lots) : lot ∈ lots ∨ lot = found.sell ctx := by
  induction lots with
  | nil => cases isFound
  | cons first rest inductionHypothesis =>
    rw [List.find?_cons] at isFound
    rw [sellFrom] at member
    by_cases finds : ctx.finds first.row
    · rw [finds] at isFound
      cases isFound
      rw [if_pos finds] at member
      rcases List.mem_cons.mp member with isFirst | later
      · exact Or.inr isFirst
      · exact Or.inl (List.mem_cons_of_mem _ later)
    · rw [Bool.eq_false_of_not_eq_true finds] at isFound
      rw [if_neg finds] at member
      rcases List.mem_cons.mp member with rfl | later
      · exact Or.inl List.mem_cons_self
      · exact (inductionHypothesis isFound later).imp_left (List.mem_cons_of_mem _)

theorem balanced_assign {ctx : BuildContext} {lots : List Lot} (fits : ctx.Fits lots)
    (balanced : ∀ lot ∈ lots, lot.Balanced) : ∀ lot ∈ assign lots ctx, lot.Balanced := by
  intro lot member
  unfold assign at member
  unfold BuildContext.Fits at fits
  cases isSide : ctx.side with
  | buy =>
    simp only [isSide] at member fits
    rcases List.mem_append.mp member with earlier | isNew
    · exact balanced lot earlier
    · rw [List.mem_singleton.mp isNew]
      exact balanced_ofFill isSide fits
  | sell =>
    simp only [isSide] at member fits
    obtain ⟨found, isFound, sellFits⟩ := fits
    rcases mem_sellFrom isFound member with earlier | rfl
    · exact balanced lot earlier
    · have finds := List.find?_some isFound
      obtain ⟨-, -, isOpen⟩ := of_decide_eq_true finds
      exact (balanced found (List.mem_of_find?_eq_some isFound)).sell isOpen isSide sellFits

theorem balanced_foldl {fills : List BuildContext} {lots : List Lot} (fit : AllFit lots fills)
    (balanced : ∀ lot ∈ lots, lot.Balanced) : ∀ lot ∈ fills.foldl assign lots, lot.Balanced := by
  induction fills generalizing lots with
  | nil => exact balanced
  | cons ctx later inductionHypothesis =>
    obtain ⟨fits, rest⟩ := fit
    exact inductionHypothesis rest (balanced_assign fits balanced)

theorem sum_map_sub {Item : Type} (first second : Item → ℚ) (items : List Item) :
    (items.map fun item => first item - second item).sum =
      (items.map first).sum - (items.map second).sum :=
  Multiset.sum_map_sub (m := (items : Multiset Item))

theorem abs_sum_sub_le {near far allowed : Lot → ℚ} {lots : List Lot}
    (each : ∀ lot ∈ lots, |near lot - far lot| ≤ allowed lot) :
    |(lots.map near).sum - (lots.map far).sum| ≤ (lots.map allowed).sum := by
  induction lots with
  | nil => simp
  | cons lot rest inductionHypothesis =>
    have first := each lot List.mem_cons_self
    have later := inductionHypothesis fun other member => each other (List.mem_cons_of_mem _ member)
    simp only [List.map_cons, List.sum_cons]
    rw [abs_le] at *
    constructor <;> linarith

theorem conserves_of_balanced {fills : List BuildContext}
    (balanced : ∀ lot ∈ fills.foldl assign [], lot.Balanced) :
    Conserves fills ((fills.foldl assign []).map Lot.row) := by
  have total (amount : BuildContext → ℚ) :
      ((fills.foldl assign []).map (Lot.total amount)).sum = (fills.map amount).sum :=
    (sum_foldl amount fills []).trans (zero_add _)
  constructor
  · rw [← sum_map_sub, ← total, ← total, List.map_map]
    refine abs_sum_sub_le fun lot member => ?_
    have isBalanced := balanced lot member
    rw [isBalanced.dust, le_div_iff₀ isBalanced.price]
    exact isBalanced.tokens
  · have regroup (banked received paid allocation : ℚ) :
        banked - (received - (paid - allocation)) = (banked - allocation) - (received - paid) := by
      ring
    rw [regroup, ← sum_map_sub, ← sum_map_sub, ← total, ← total, List.map_map]
    refine abs_sum_sub_le fun lot member => ?_
    have spare : (0 : ℚ) ≤ if lot.row.status = .open then 1 / 2 else 0 := by
      split
      · norm_num
      · rfl
    exact (le_add_of_nonneg_right spare).trans (balanced lot member).pnl

/-- A fill of a user, of COIN. -/
def exampleFill (side : Side) (amountIn amountOut usdValue : ℚ) : BuildContext where
  builtAt := 0
  userId := "ada"
  owner := "wallet"
  side := side
  binanceSymbol := "COINUSDT"
  pair := "COIN/USDT"
  baseSymbol := "COIN"
  amountInHuman := amountIn
  expectedOutHuman := amountOut
  usdValue := usdValue

/-- Two lots for USDC, of which the first is sold in two parts and the second in part. -/
def exampleFills : List (Stored BuildContext) :=
  [⟨0, exampleFill .buy 100 50 100⟩, ⟨1, exampleFill .sell 20 50 50⟩,
    ⟨2, exampleFill .buy 60 20 60⟩, ⟨3, exampleFill .sell (299 / 10) 90 90⟩,
    ⟨4, exampleFill .sell 5 20 20⟩]

def solFill : Stored BuildContext := ⟨0, exampleFill .buy 1 1000 150⟩

end GdslExchange.JupiterBrowser
