/-
This file models what the Jupiter swap service talks to: the trade book of one
user under the strategy "DEX Jupiter SOL", the in-flight map of his buys, and
the exchange, which answers whatever it likes.

Ids are positions in the book, and the book is in creation order. A transaction
carries, beside its bytes, what it swaps; neither the service nor the exchange
looks at that.
-/

import GdslExchange.Async.Delivery
import GdslExchange.Async.Program
import GdslExchange.Numeric.Fixed
import Mathlib.Algebra.Order.Floor.Ring
import Mathlib.Data.Rat.Floor

namespace GdslExchange.Jupiter

open Async (Delivery Stored)

/-! ### The book -/

inductive Side where
  | buy
  | sell
deriving DecidableEq

inductive TradeStatus where
  | open
  | closed
  | cancelled
deriving DecidableEq

structure Trade where
  pair : String
  entryPrice : ℚ
  exitPrice : Option ℚ
  pnl : Option ℚ
  allocationUsd : Option ℚ
  takeProfitPct : Option ℚ
  status : TradeStatus
deriving DecidableEq

namespace Trade

def alloc (trade : Trade) : ℚ := trade.allocationUsd.getD 0

def banked (trade : Trade) : ℚ := trade.pnl.getD 0

def IsOpen (trade : Trade) : Prop := trade.status = .open

instance (trade : Trade) : Decidable trade.IsOpen := by unfold IsOpen; infer_instance

def carries (pair : String) (trade : Trade) : ℚ :=
  if trade.pair = pair ∧ trade.IsOpen then trade.alloc else 0

end Trade

/-- The `data` of a trade update: the columns it sets. -/
structure TradePatch where
  allocationUsd : Option (Option ℚ) := none
  entryPrice : Option ℚ := none
  exitPrice : Option ℚ := none
  pnl : Option ℚ := none
  status : Option TradeStatus := none
deriving DecidableEq

def TradePatch.apply (patch : TradePatch) (trade : Trade) : Trade :=
  { trade with
    allocationUsd := patch.allocationUsd.getD trade.allocationUsd
    entryPrice := patch.entryPrice.getD trade.entryPrice
    exitPrice := patch.exitPrice.or trade.exitPrice
    pnl := patch.pnl.or trade.pnl
    status := patch.status.getD trade.status }

def Trade.cancel (trade : Trade) : Trade := { trade with status := .cancelled }

/-- The book of the user and the time of each of his buys in flight. -/
structure Desk where
  trades : List Trade
  buyInFlight : String → Option ℕ

def Desk.store (desk : Desk) (trades : List Trade) : Desk := { desk with trades := trades }

def Desk.flight (desk : Desk) (pair : String) (since : Option ℕ) : Desk :=
  { desk with buyInFlight := Function.update desk.buyInFlight pair since }

/-- The rows of the book with their ids. -/
def rows (trades : List Trade) : List (Stored Trade) :=
  trades.mapIdx fun id row => ⟨id, row⟩

/-- The OPEN rows, the oldest first. -/
def openRows (trades : List Trade) : List (Stored Trade) :=
  (rows trades).filter fun stored => stored.row.IsOpen

/-- The OPEN rows of a pair, the oldest first. -/
def openRowsOf (pair : String) (trades : List Trade) : List (Stored Trade) :=
  (rows trades).filter fun stored => stored.row.pair = pair ∧ stored.row.IsOpen

/-- The rows that satisfy a predicate are cancelled. -/
def cancelWhere (predicate : Stored Trade → Bool) (trades : List Trade) : List Trade :=
  trades.mapIdx fun id row => if predicate ⟨id, row⟩ then row.cancel else row

def openCost (pair : String) (trades : List Trade) : ℚ :=
  (trades.map fun trade => trade.carries pair).sum

/-! ### Operations -/

inductive SpendAsset where
  | usdc
  | sol
deriving DecidableEq

/-- `JupiterSwapRequest`. -/
structure SwapRequest where
  side : Side
  binanceSymbol : String
  amount : ℚ
  slippageBps : Option ℚ := none
  spendAsset : Option SpendAsset := none
  spendMint : Option String := none
deriving DecidableEq

/-- The fields of a preview that the swap reads. -/
structure Preview where
  tradable : Bool
  blockTrade : Bool
  blockReason : Option String
  message : Option String

structure Token where
  binanceSymbol : String
  baseSymbol : String
  mint : String
  decimals : ℕ
deriving DecidableEq

namespace Token

def pair (token : Token) : String := token.baseSymbol ++ "/USDT"

end Token

/-- The parameters of `getJupiterOrder`. -/
structure OrderRequest where
  inputMint : String
  outputMint : String
  amount : ℕ
  taker : String
  slippageBps : ℚ
  dexes : Option String
deriving DecidableEq

/-- The fields of an order that the swap reads. -/
structure Order where
  transaction : Option String
  requestId : String
  inAmount : Option ℕ
  outAmount : ℕ

/-- What a transaction swaps, in whole tokens: the amount the call asked for, and the amounts of
the order. -/
structure Swap where
  side : Side
  partialSkim : Bool
  inputMint : String
  asked : ℚ
  inAmount : ℚ
  outAmount : ℚ
deriving DecidableEq

structure SignedTransaction where
  transaction : String
  signer : String
  requestId : String
  swap : Swap
deriving DecidableEq

/-- The answer of the execute endpoint. -/
structure ExecuteReply where
  ok : Bool
  httpStatus : ℕ
  status : Option String
  error : Option String
  message : Option String
  signature : Option String

/-- A token account of the wallet. -/
structure SolanaHolding where
  mint : String
  amount : ℚ

inductive Op where
  | ensureSolanaPersonalWallet
  | ensureSolanaSwapGas
  | previewJupiterSwap (request : SwapRequest) (skipEntryGuard : Bool)
  | getJupiterTradableToken (binanceSymbol : String)
  | getSolanaMintDecimals (mint : String)
  | fetchJupiterPrice (mint : String)
  | getSolanaKeypair
  | getSolanaTokenBalance (mint : String) (decimals : ℕ)
  | pickBestJupiterDexFilter (request : SwapRequest)
  | getJupiterOrder (request : OrderRequest)
  | submitJupiterExecute (signed : SignedTransaction)
  | quoteJupiterSellUsdPerToken (baseSymbol : String) (quantity : ℚ)
  | ensureJupiterStrategyId
  | enterBuy (pair : String)
  | leaveBuy (pair : String)
  | findOpenTrade (pair : String)
  | findOpenTrades
  | findOpenTradesOf (pair : String)
  | updateTrade (id : ℕ) (patch : TradePatch)
  | cancelOpenTrades (ids : List ℕ)
  | cancelOtherTrades (pair : String) (kept : ℕ)
  | createTrade (row : Trade)
  | findTrades
  | listSolanaHoldings
  | currentTime
  | sleep (milliseconds : ℕ)
deriving DecidableEq

@[reducible] def Result : Op → Type
  | .ensureSolanaPersonalWallet => Unit
  | .ensureSolanaSwapGas => Unit
  | .previewJupiterSwap _ _ => Preview
  | .getJupiterTradableToken _ => Option Token
  | .getSolanaMintDecimals _ => ℕ
  | .fetchJupiterPrice _ => Option ℚ
  | .getSolanaKeypair => String
  | .getSolanaTokenBalance _ _ => ℚ
  | .pickBestJupiterDexFilter _ => Option String
  | .getJupiterOrder _ => Order
  | .submitJupiterExecute _ => ExecuteReply
  | .quoteJupiterSellUsdPerToken _ _ => Option ℚ
  | .ensureJupiterStrategyId => Unit
  | .enterBuy _ => Bool
  | .leaveBuy _ => Unit
  | .findOpenTrade _ => Option (Stored Trade)
  | .findOpenTrades => List (Stored Trade)
  | .findOpenTradesOf _ => List (Stored Trade)
  | .updateTrade _ _ => Stored Trade
  | .cancelOpenTrades _ => Unit
  | .cancelOtherTrades _ _ => Unit
  | .createTrade _ => Stored Trade
  | .findTrades => List (Stored Trade)
  | .listSolanaHoldings => List SolanaHolding
  | .currentTime => ℕ
  | .sleep _ => Unit

/-- The in-flight map is read and written at a time, the book can fail, the clock and a sleep
cannot, and everything else answers or fails. -/
@[reducible] def Fate : Op → Type
  | .enterBuy _ => ℕ
  | .leaveBuy _ => Unit
  | .ensureJupiterStrategyId => Delivery
  | .findOpenTrade _ => Delivery
  | .findOpenTrades => Delivery
  | .findOpenTradesOf _ => Delivery
  | .updateTrade _ _ => Delivery
  | .cancelOpenTrades _ => Delivery
  | .cancelOtherTrades _ _ => Delivery
  | .createTrade _ => Delivery
  | .findTrades => Delivery
  | .currentTime => ℕ
  | .sleep _ => Unit
  | op => Except String (Result op)

def buyInFlightMs : ℕ := 45000

def Desk.buying (desk : Desk) (pair : String) (now : ℕ) : Prop :=
  ∃ since ∈ desk.buyInFlight pair, now - since < buyInFlightMs

instance (desk : Desk) (pair : String) (now : ℕ) : Decidable (desk.buying pair now) := by
  unfold Desk.buying; infer_instance

def perform : (op : Op) → Fate op → Desk → Desk × Except String (Result op)
  | .enterBuy pair, now, desk =>
    if desk.buying pair now then (desk, .ok false)
    else (desk.flight pair (some now), .ok true)
  | .leaveBuy pair, _, desk => (desk.flight pair none, .ok ())
  | .ensureJupiterStrategyId, delivery, desk => delivery.read desk ()
  | .findOpenTrade pair, delivery, desk => delivery.read desk (openRowsOf pair desk.trades).head?
  | .findOpenTrades, delivery, desk => delivery.read desk (openRows desk.trades)
  | .findOpenTradesOf pair, delivery, desk => delivery.read desk (openRowsOf pair desk.trades)
  | .updateTrade id patch, delivery, desk =>
    match desk.trades[id]? with
    | none => (desk, .error "Record to update not found.")
    | some row =>
      delivery.write desk (desk.store (desk.trades.set id (patch.apply row))) ⟨id, patch.apply row⟩
  | .cancelOpenTrades ids, delivery, desk =>
    delivery.write desk (desk.store (cancelWhere (fun stored =>
      stored.id ∈ ids ∧ stored.row.IsOpen) desk.trades)) ()
  | .cancelOtherTrades pair kept, delivery, desk =>
    delivery.write desk (desk.store (cancelWhere (fun stored =>
      stored.id ≠ kept ∧ stored.row.pair = pair ∧ stored.row.IsOpen) desk.trades)) ()
  | .createTrade row, delivery, desk =>
    delivery.write desk (desk.store (desk.trades ++ [row])) ⟨desk.trades.length, row⟩
  | .findTrades, delivery, desk => delivery.read desk (rows desk.trades)
  | .currentTime, now, desk => (desk, .ok now)
  | .sleep _, _, desk => (desk, .ok ())
  | .listSolanaHoldings, answer, desk => (desk, answer)
  | .ensureSolanaPersonalWallet, answer, desk => (desk, answer)
  | .ensureSolanaSwapGas, answer, desk => (desk, answer)
  | .previewJupiterSwap _ _, answer, desk => (desk, answer)
  | .getJupiterTradableToken _, answer, desk => (desk, answer)
  | .getSolanaMintDecimals _, answer, desk => (desk, answer)
  | .fetchJupiterPrice _, answer, desk => (desk, answer)
  | .getSolanaKeypair, answer, desk => (desk, answer)
  | .getSolanaTokenBalance _ _, answer, desk => (desk, answer)
  | .pickBestJupiterDexFilter _, answer, desk => (desk, answer)
  | .getJupiterOrder _, answer, desk => (desk, answer)
  | .submitJupiterExecute _, answer, desk => (desk, answer)
  | .quoteJupiterSellUsdPerToken _ _, answer, desk => (desk, answer)

/-- The outside world of the Jupiter swap service. -/
abbrev venue : Async.Service where
  State := Desk
  Op := Op
  Result := Result
  Failure := String
  Fate := Fate
  perform := perform

/-- A call of the Jupiter swap service. -/
abbrev Call (Value : Type) := Async.Program venue Value

def await (op : Op) : Call (Result op) := @Async.Program.perform venue op

/-! ### Rows -/

section Rows

variable {trades : List Trade} {pair : String} {id : ℕ} {row : Trade}

theorem mem_rows {stored : Stored Trade} :
    stored ∈ rows trades ↔ trades[stored.id]? = some stored.row := by
  unfold rows
  rw [List.mem_mapIdx]
  constructor
  · rintro ⟨position, bound, rfl⟩
    exact List.getElem?_eq_getElem bound
  · intro found
    obtain ⟨bound, isRow⟩ := List.getElem?_eq_some_iff.mp found
    exact ⟨stored.id, bound, by rw [isRow]⟩

theorem nodup_rows (trades : List Trade) : (rows trades).Nodup := by
  refine List.Nodup.of_map Stored.id ?_
  have ids : (rows trades).map Stored.id = List.range trades.length := by
    refine List.ext_getElem (by simp [rows]) fun position _ _ => ?_
    simp [rows]
  rw [ids]
  exact List.nodup_range

theorem mem_openRowsOf {stored : Stored Trade} : stored ∈ openRowsOf pair trades ↔
    trades[stored.id]? = some stored.row ∧ stored.row.pair = pair ∧ stored.row.IsOpen := by
  unfold openRowsOf
  rw [List.mem_filter, mem_rows, decide_eq_true_eq]

theorem mem_openRows {stored : Stored Trade} : stored ∈ openRows trades ↔
    trades[stored.id]? = some stored.row ∧ stored.row.IsOpen := by
  unfold openRows
  rw [List.mem_filter, mem_rows, decide_eq_true_eq]

theorem filter_openRows (pair : String) (trades : List Trade) :
    (openRows trades).filter (fun stored => stored.row.pair = pair) = openRowsOf pair trades := by
  unfold openRows openRowsOf
  rw [List.filter_filter]
  refine List.filter_congr fun stored _ => ?_
  rw [Bool.decide_and]

theorem getElem?_cancelWhere (predicate : Stored Trade → Bool) (trades : List Trade) (id : ℕ) :
    (cancelWhere predicate trades)[id]? =
      trades[id]?.map fun row => if predicate ⟨id, row⟩ then row.cancel else row := by
  unfold cancelWhere
  rw [List.getElem?_mapIdx]

theorem pair_apply (patch : TradePatch) (row : Trade) : (patch.apply row).pair = row.pair := rfl

/-- The ids of a list of rows stand for rows of the same pairs. -/
def SamePairs (trades : List Trade) (opens : List (Stored Trade)) : Prop :=
  ∀ stored ∈ opens, ∃ current, trades[stored.id]? = some current ∧
    current.pair = stored.row.pair

theorem SamePairs.set {opens : List (Stored Trade)} (same : SamePairs trades opens)
    (found : trades[id]? = some row) (patch : TradePatch) :
    SamePairs (trades.set id (patch.apply row)) opens := by
  intro stored member
  obtain ⟨current, isCurrent, samePair⟩ := same stored member
  by_cases isId : stored.id = id
  · subst isId
    rw [found] at isCurrent
    cases isCurrent
    exact ⟨patch.apply row, List.getElem?_set_self (List.getElem?_eq_some_iff.mp found).1,
      samePair⟩
  · exact ⟨current, by rw [List.getElem?_set_ne (Ne.symm isId)]; exact isCurrent, samePair⟩

theorem SamePairs.cancelWhere {opens : List (Stored Trade)} (same : SamePairs trades opens)
    (predicate : Stored Trade → Bool) : SamePairs (cancelWhere predicate trades) opens := by
  intro stored member
  obtain ⟨current, isCurrent, samePair⟩ := same stored member
  rw [getElem?_cancelWhere, isCurrent]
  refine ⟨_, rfl, ?_⟩
  dsimp only
  split
  · exact samePair
  · exact samePair

theorem samePairs_openRows (trades : List Trade) : SamePairs trades (openRows trades) :=
  fun stored member => ⟨stored.row, (mem_openRows.mp member).1, rfl⟩

/-- The row under an id is the pair's only OPEN one, if it is OPEN at all. -/
structure LotIs (pair : String) (id : ℕ) (row : Trade) (trades : List Trade) : Prop where
  found : trades[id]? = some row
  isPair : row.pair = pair
  others : ∀ other (stored : Trade), trades[other]? = some stored → other ≠ id →
    stored.pair = pair → ¬ stored.IsOpen

section

variable (lot : LotIs pair id row trades)
include lot

theorem LotIs.openRowsOf :
    openRowsOf pair trades = if row.IsOpen then [⟨id, row⟩] else [] := by
  have only : ∀ stored ∈ Jupiter.openRowsOf pair trades,
      stored = ⟨id, row⟩ ∧ row.IsOpen := by
    intro stored member
    obtain ⟨found, isPair, isOpen⟩ := mem_openRowsOf.mp member
    by_cases same : stored.id = id
    · rw [same, lot.found] at found
      cases found
      exact ⟨by rw [← same], isOpen⟩
    · exact absurd isOpen (lot.others _ _ found same isPair)
  split
  · next isOpen =>
    have present : (⟨id, row⟩ : Stored Trade) ∈ Jupiter.openRowsOf pair trades :=
      mem_openRowsOf.mpr ⟨lot.found, lot.isPair, isOpen⟩
    have nodup : (Jupiter.openRowsOf pair trades).Nodup := (nodup_rows trades).filter _
    refine List.perm_singleton.mp ((List.perm_ext_iff_of_nodup nodup
      (List.nodup_singleton _)).mpr fun stored => ?_)
    rw [List.mem_singleton]
    exact ⟨fun member => (only stored member).1, fun isLot => by rw [isLot]; exact present⟩
  · next isClosed =>
    exact List.eq_nil_iff_forall_not_mem.mpr fun stored member =>
      isClosed (only stored member).2

theorem LotIs.setSelf (patch : TradePatch) :
    LotIs pair id (patch.apply row) (trades.set id (patch.apply row)) where
  found := List.getElem?_set_self (List.getElem?_eq_some_iff.mp lot.found).1
  isPair := lot.isPair
  others other stored found different := by
    rw [List.getElem?_set_ne (Ne.symm different)] at found
    exact lot.others other stored found different

theorem LotIs.setOther {other : ℕ} {written : Trade} (isOther : written.pair ≠ pair)
    (different : other ≠ id) :
    LotIs pair id row (trades.set other written) where
  found := by
    rw [List.getElem?_set_ne different]
    exact lot.found
  isPair := lot.isPair
  others position stored found notLot isPair := by
    rcases eq_or_ne position other with rfl | elsewhere
    · have isWritten : stored = written := by
        rw [List.getElem?_set, if_pos rfl] at found
        split at found
        · cases found
          rfl
        · cases found
      rw [isWritten] at isPair
      exact absurd isPair isOther
    · rw [List.getElem?_set_ne (Ne.symm elsewhere)] at found
      exact lot.others position stored found notLot isPair

theorem LotIs.cancelWhere (predicate : Stored Trade → Bool) :
    LotIs pair id (if predicate ⟨id, row⟩ then row.cancel else row)
      (cancelWhere predicate trades) where
  found := by
    rw [getElem?_cancelWhere, lot.found]
    rfl
  isPair := by
    split
    · exact lot.isPair
    · exact lot.isPair
  others other stored found different isPair isOpen := by
    rw [getElem?_cancelWhere] at found
    obtain ⟨before, isBefore, isStored⟩ := Option.map_eq_some_iff.mp found
    split_ifs at isStored
    · subst isStored
      cases isOpen
    · subst isStored
      exact lot.others other before isBefore different isPair isOpen

end

/-! ### The cost that OPEN rows carry -/

theorem openCost_eq_rows (pair : String) (trades : List Trade) :
    openCost pair trades = ((rows trades).map fun stored => stored.row.carries pair).sum := by
  unfold openCost rows
  congr 1
  refine List.ext_getElem (by simp) fun position _ _ => ?_
  simp

/-- A write changes the cost by the new row less the old one. -/
theorem openCost_set (found : trades[id]? = some row) (written : Trade) :
    openCost pair (trades.set id written) =
      openCost pair trades + (written.carries pair - row.carries pair) := by
  induction trades generalizing id with
  | nil => cases found
  | cons head rest inductionHypothesis =>
    unfold openCost at inductionHypothesis ⊢
    cases id with
    | zero =>
      cases found
      simp only [List.set_cons_zero, List.map_cons, List.sum_cons]
      ring
    | succ position =>
      simp only [List.set_cons_succ, List.map_cons, List.sum_cons]
      rw [inductionHypothesis found]
      ring

theorem openCost_append (pair : String) (trades : List Trade) (created : Trade) :
    openCost pair (trades ++ [created]) = openCost pair trades + created.carries pair := by
  unfold openCost
  rw [List.map_append, List.sum_append, List.map_singleton, List.sum_singleton]

theorem carries_cancel (pair : String) (row : Trade) : row.cancel.carries pair = 0 := by
  exact if_neg fun both => by cases both.2

theorem openCost_cancelWhere (pair : String) (predicate : Stored Trade → Bool)
    (trades : List Trade) : openCost pair (cancelWhere predicate trades) =
      openCost pair trades -
        (((rows trades).filter predicate).map fun stored => stored.row.carries pair).sum := by
  have split : ∀ list : List (Stored Trade),
      (list.map fun stored =>
        (if predicate stored then stored.row.cancel else stored.row).carries pair).sum =
      (list.map fun stored => stored.row.carries pair).sum -
        ((list.filter predicate).map fun stored => stored.row.carries pair).sum := by
    intro list
    induction list with
    | nil => simp
    | cons head rest inductionHypothesis =>
      rw [List.map_cons, List.sum_cons, inductionHypothesis, List.map_cons, List.sum_cons]
      by_cases holds : predicate head
      · rw [if_pos holds, carries_cancel, List.filter_cons_of_pos holds, List.map_cons,
          List.sum_cons]
        ring
      · rw [if_neg holds, List.filter_cons_of_neg holds]
        ring
  rw [openCost_eq_rows pair trades, ← split]
  unfold openCost cancelWhere rows
  congr 1
  refine List.ext_getElem (by simp) fun position _ _ => ?_
  simp

/-- Rows that carry nothing are cancelled without loss. -/
theorem openCost_cancelWhere_idle {predicate : Stored Trade → Bool}
    (idle : ∀ stored ∈ rows trades, predicate stored → stored.row.carries pair = 0) :
    openCost pair (cancelWhere predicate trades) = openCost pair trades := by
  rw [openCost_cancelWhere, List.sum_eq_zero, sub_zero]
  intro cost member
  obtain ⟨stored, inRows, rfl⟩ := List.mem_map.mp member
  obtain ⟨isRow, holds⟩ := List.mem_filter.mp inRows
  exact idle stored isRow holds

end Rows

end GdslExchange.Jupiter
