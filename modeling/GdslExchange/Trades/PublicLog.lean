/-
This file models the pages of the trade log. A page starts as many rows after the newest as the
pages before it are long, and is filled up from further rows where its own are not displayed; the
next page does not know of that, and displays them again.
-/

import GdslExchange.Jupiter.Book
import GdslExchange.Portfolio.RoundTrip

namespace GdslExchange.Trades.PublicLog

open Jupiter (TradeStatus)
open Portfolio

inductive RiskLevel where
  | LOW
  | MEDIUM
  | HIGH
deriving DecidableEq

/-- A row, with its strategy. -/
structure Trade where
  id : String
  userId : String
  pair : String
  entryPrice : ℚ
  exitPrice : Option ℚ
  pnl : Option ℚ
  allocationUsd : Option ℚ
  status : TradeStatus
  createdAt : ℕ
  strategyName : String
  riskLevel : RiskLevel

/-- The rows of the table; those of one user were created at different times. -/
structure Log where
  rows : List Trade
  ids : (rows.map Trade.id).Nodup
  times : rows.Pairwise fun first second =>
    first.userId = second.userId → first.createdAt ≠ second.createdAt

inductive StatusQuery where
  | OPEN
  | CLOSED
  | ALL
  | all
  | opened
  | closed
deriving DecidableEq

/-- What has passed `tradesQuerySchema`, but for the page. -/
structure TradesQuery where
  limit : ℕ
  status : StatusQuery
  pair : Option String
  limited : 1 ≤ limit ∧ limit ≤ 100

def StatusQuery.status : StatusQuery → Option TradeStatus
  | .OPEN | .opened => some .open
  | .CLOSED | .closed => some .closed
  | .ALL | .all => none

/-- The rows that fit the query, the newest first. -/
def Log.found (log : Log) (userId : String) (query : TradesQuery) : List Trade :=
  (log.rows.filter fun trade => trade.userId = userId ∧
    (∀ status ∈ query.status.status, trade.status = status) ∧
    ∀ pair ∈ query.pair, pair ≠ "" → trade.pair = pair).mergeSort
      fun first second => second.createdAt ≤ first.createdAt

inductive Side where
  | BUY
  | SELL
  | CLOSED
  | CANCELLED
deriving DecidableEq

def deriveSide (status : TradeStatus) (exitPrice : Option ℚ) : Side :=
  match status with
  | .cancelled => .CANCELLED
  | .open => .BUY
  | .closed => if exitPrice.isSome then .CLOSED else .SELL

def Trade.roundTrip (trade : Trade) : RoundTripPnlRow where
  pair := some trade.pair
  pnl := trade.pnl
  allocationUsd := trade.allocationUsd
  entryPrice := some trade.entryPrice
  exitPrice := trade.exitPrice
  strategyName := some trade.strategyName

/-- The row is a round trip that has ended. -/
def Trade.Returned (trade : Trade) : Prop := trade.status = .closed ∧ trade.exitPrice.isSome

instance (trade : Trade) : Decidable trade.Returned := inferInstanceAs (Decidable (_ ∧ _))

def Trade.included (trade : Trade) : Bool :=
  if ¬ trade.Returned then true else shouldIncludeClosedTradeInPublicLog trade.roundTrip

structure Entry where
  id : String
  pair : String
  entryPrice : ℚ
  exitPrice : Option ℚ
  pnl : Option ℚ
  grossPnl : Option ℚ
  netPnl : Option ℚ
  allocationUsd : Option ℚ
  status : TradeStatus
  side : Side
  strategy : String
  riskLevel : RiskLevel
  createdAt : ℕ

def Trade.entry (trade : Trade) : Entry :=
  let pnlRow := { trade.roundTrip with pair := none }
  let grossPnl := if trade.Returned then some (displayRoundTripPnl pnlRow) else trade.pnl
  { id := trade.id
    pair := trade.pair
    entryPrice := trade.entryPrice
    exitPrice := trade.exitPrice
    pnl := grossPnl
    grossPnl := grossPnl
    netPnl := if trade.Returned then some (displayNetRoundTripPnl pnlRow) else none
    allocationUsd := trade.allocationUsd
    status := trade.status
    side := deriveSide trade.status trade.exitPrice
    strategy := trade.strategyName
    riskLevel := trade.riskLevel
    createdAt := trade.createdAt }

/-- A closed entry whose profit is below `-1e-6`. -/
def Entry.loses (entry : Entry) : Bool :=
  entry.status = .closed && entry.pnl.any fun pnl => pnl < -(1 / 10 ^ 6)

def limitPublicLogLosses (trades : List Entry) : List Entry :=
  limitLosses Entry.loses PUBLIC_LOG_MAX_LOSSES 0 trades

structure Page where
  trades : List Entry
  total : ℕ
  page : ℕ
  totalPages : ℕ

def totalPages (log : Log) (userId : String) (query : TradesQuery) : ℕ :=
  ((log.found userId query).length + query.limit - 1) / query.limit

/-- How many rows a page is filled from. -/
def TradesQuery.take (query : TradesQuery) : ℕ := min 200 (max (query.limit * 6) 80)

def getTrades (log : Log) (userId : String) (query : TradesQuery) (page : ℕ) : Page :=
  let skip := (page - 1) * query.limit
  let rows := ((log.found userId query).drop (if page ≤ 1 then 0 else skip)).take query.take
  { trades := (limitPublicLogLosses ((rows.filter Trade.included).map Trade.entry)).take query.limit
    total := (log.found userId query).length
    page
    totalPages := totalPages log userId query }

/-! ### The property and the condition -/

section Statement

variable (log : Log) (userId : String) (query : TradesQuery)

/-- The pages from the first to the last, put together. -/
def allPages : List Entry :=
  (List.range (totalPages log userId query)).flatMap fun index =>
    (getTrades log userId query (index + 1)).trades

/-- An open trade, or a closed one that is included and does not lose. -/
def Trade.Listed (trade : Trade) : Prop :=
  trade.status = .open ∨
    trade.status = .closed ∧ trade.included ∧ ¬ trade.entry.loses

structure Partitions : Prop where
  complete : ∀ trade ∈ log.found userId query, trade.Listed →
    trade.entry ∈ allPages log userId query
  descending : (allPages log userId query).Pairwise fun first second =>
    second.createdAt ≤ first.createdAt
  once : ((allPages log userId query).map Entry.id).Nodup

/-- The rows that belong to a page. -/
def own (index : ℕ) : List Trade :=
  ((log.found userId query).drop (index * query.limit)).take query.limit

/-- The rows after them from which the page is filled up. -/
def further (index : ℕ) : List Trade :=
  ((log.found userId query).drop (index * query.limit + query.limit)).take
    (query.take - query.limit)

/-- The included losses. -/
def losses (rows : List Trade) : ℕ :=
  (rows.filter Trade.included).countP fun trade => trade.entry.loses

/-- All rows of the page are displayed, or none of the rows after them. -/
def FillsNothing (index : ℕ) : Prop :=
  (∀ trade ∈ own log userId query index, trade.included) ∧ losses (own log userId query index) ≤ 2 ∨
    ∀ trade ∈ further log userId query index, trade.included →
      trade.entry.loses ∧ 2 ≤ losses (own log userId query index)

end Statement

/-! ### Rows and pages -/

theorem Trade.loses_entry_of_listed {trade : Trade} (listed : trade.Listed) :
    trade.included ∧ ¬ trade.entry.loses := by
  obtain isOpen | closed := listed
  · have unreturned : ¬ trade.Returned := fun returned =>
      TradeStatus.noConfusion (isOpen.symm.trans returned.1)
    refine ⟨by rw [Trade.included, if_pos unreturned], ?_⟩
    unfold Entry.loses
    rw [show trade.entry.status = .open from isOpen]
    exact Bool.false_ne_true
  · exact closed.2

section Pages

variable {log : Log} {userId : String} {query : TradesQuery}

/-- The rows that are found are in the order of their times. -/
theorem found_pairwise : (log.found userId query).Pairwise fun first second =>
    second.createdAt < first.createdAt := by
  have sorted : (log.found userId query).Pairwise fun first second =>
      decide (second.createdAt ≤ first.createdAt) = true :=
    List.pairwise_mergeSort
      (fun first second third => by simp only [decide_eq_true_eq]; omega)
      (fun first second => by simp only [Bool.or_eq_true, decide_eq_true_eq]; omega) _
  have different : (log.found userId query).Pairwise fun first second =>
      first.userId = second.userId → first.createdAt ≠ second.createdAt := by
    refine ((List.mergeSort_perm _ _).pairwise_iff fun apart same => ?_).mpr
      (log.times.sublist List.filter_sublist)
    exact (apart same.symm).symm
  refine (sorted.and different).imp_of_mem fun {first second} isFirst isSecond both => ?_
  have owned (trade : Trade) (member : trade ∈ log.found userId query) : trade.userId = userId :=
    (of_decide_eq_true (List.mem_filter.mp (List.mem_mergeSort.mp member)).2).1
  exact lt_of_le_of_ne (of_decide_eq_true both.1)
    (both.2 ((owned first isFirst).trans (owned second isSecond).symm)).symm

theorem found_ids : ((log.found userId query).map Trade.id).Nodup :=
  ((List.mergeSort_perm _ _).map _).nodup_iff.mpr (log.ids.sublist (List.filter_sublist.map _))

/-- The rows of a list that are displayed, where so many losses have been before. -/
def displayed (lossesKept : ℕ) (rows : List Trade) : List Trade :=
  limitLosses (fun trade => trade.entry.loses) PUBLIC_LOG_MAX_LOSSES lossesKept
    (rows.filter Trade.included)

theorem displayed_sublist (lossesKept : ℕ) (rows : List Trade) :
    (displayed lossesKept rows).Sublist rows :=
  (limitLosses_sublist _ _).trans List.filter_sublist

theorem displayed_append (first second : List Trade) :
    displayed 0 (first ++ second) = displayed 0 first ++ displayed (min 2 (losses first)) second := by
  unfold displayed losses
  rw [List.filter_append, limitLosses_append, Nat.zero_add, max_eq_right (Nat.zero_le _)]
  rfl

theorem displayed_eq_self_iff {rows : List Trade} : displayed 0 rows = rows ↔
    (∀ trade ∈ rows, trade.included) ∧ losses rows ≤ 2 := by
  have few := @limitLosses_eq_self_iff _ (fun trade : Trade => trade.entry.loses)
    PUBLIC_LOG_MAX_LOSSES 0 (Nat.zero_le _) (rows.filter Trade.included)
  rw [Nat.zero_add] at few
  constructor
  · intro same
    have le : rows.length ≤ (rows.filter Trade.included).length := by
      have kept := (@limitLosses_sublist _ (fun trade : Trade => trade.entry.loses)
        PUBLIC_LOG_MAX_LOSSES 0 (rows.filter Trade.included)).length_le
      exact (congrArg List.length same).ge.trans kept
    have all : rows.filter Trade.included = rows := List.filter_sublist.eq_of_length_le le
    exact ⟨List.filter_eq_self.mp all, few.mp (same.trans all.symm)⟩
  · rintro ⟨all, isFew⟩
    exact (few.mpr isFew).trans (List.filter_eq_self.mpr all)

theorem displayed_eq_nil_iff {lossesKept : ℕ} {rows : List Trade} :
    displayed lossesKept rows = [] ↔
      ∀ trade ∈ rows, trade.included → trade.entry.loses ∧ 2 ≤ lossesKept := by
  unfold displayed
  rw [limitLosses_eq_nil_iff]
  exact ⟨fun all trade member included => all trade (List.mem_filter.mpr ⟨member, included⟩),
    fun all trade member => all trade (List.mem_filter.mp member).1 (List.mem_filter.mp member).2⟩

/-- The rows after its own that a page displays. -/
def filled (log : Log) (userId : String) (query : TradesQuery) (index : ℕ) : List Trade :=
  (displayed (min 2 (losses (own log userId query index))) (further log userId query index)).take
    (query.limit - (displayed 0 (own log userId query index)).length)

/-- The rows that are read for a page. -/
def window (log : Log) (userId : String) (query : TradesQuery) (index : ℕ) : List Trade :=
  ((log.found userId query).drop (index * query.limit)).take query.take

theorem trades_getTrades (index : ℕ) : (getTrades log userId query (index + 1)).trades =
    ((displayed 0 (window log userId query index)).take query.limit).map Trade.entry := by
  have skipped : (if index + 1 ≤ 1 then 0 else (index + 1 - 1) * query.limit) =
      index * query.limit := by
    split
    · rw [show index = 0 by omega, Nat.zero_mul]
    · rfl
  unfold getTrades limitPublicLogLosses
  dsimp only
  rw [skipped, limitLosses_map, ← List.map_take]
  rfl

theorem limit_add_sub : query.limit + (query.take - query.limit) = query.take := by
  have limited := query.limited
  unfold TradesQuery.take
  omega

theorem window_eq (index : ℕ) : window log userId query index =
    own log userId query index ++ further log userId query index := by
  unfold window own further
  rw [← @limit_add_sub query, List.take_add, List.drop_drop, Nat.add_sub_cancel_left]

/-- The next page starts with the rows from which a page is filled. -/
theorem further_starts_window (index : ℕ) :
    further log userId query index <+: window log userId query (index + 1) := by
  unfold window further
  rw [Nat.succ_mul]
  exact List.take_prefix_take_left (Nat.sub_le _ _)

/-- A page displays rows of its own, and is filled from the others. -/
theorem take_displayed_window (index : ℕ) :
    (displayed 0 (window log userId query index)).take query.limit =
      displayed 0 (own log userId query index) ++ filled log userId query index := by
  have short : (displayed 0 (own log userId query index)).length ≤ query.limit :=
    (displayed_sublist 0 _).length_le.trans (List.length_take_le _ _)
  rw [window_eq, displayed_append, List.take_append, List.take_of_length_le short]
  rfl

theorem further_eq_nil {index : ℕ} (short : (own log userId query index).length < query.limit) :
    further log userId query index = [] := by
  unfold own further at *
  rw [List.length_take, List.length_drop] at short
  rw [List.drop_eq_nil_of_le (by omega), List.take_nil]

theorem filled_eq_nil_iff (index : ℕ) :
    filled log userId query index = [] ↔ FillsNothing log userId query index := by
  unfold filled FillsNothing
  rw [List.take_eq_nil_iff, displayed_eq_nil_iff, ← displayed_eq_self_iff, Nat.sub_eq_zero_iff_le,
    le_min_iff]
  have le := (displayed_sublist 0 (own log userId query index))
  have short : (own log userId query index).length ≤ query.limit := List.length_take_le _ _
  constructor
  · rintro (full | none)
    · exact Or.inl (le.eq_of_length_le (short.trans full))
    · exact Or.inr fun trade member included =>
        ⟨(none trade member included).1, (none trade member included).2.2⟩
  · rintro (same | none)
    · by_cases full : query.limit ≤ (own log userId query index).length
      · exact Or.inl (by rwa [same])
      · rw [further_eq_nil (Nat.lt_of_not_le full)]
        exact Or.inr fun trade member => absurd member List.not_mem_nil
    · exact Or.inr fun trade member included =>
        ⟨(none trade member included).1, le_rfl, (none trade member included).2⟩

/-- The rows of all pages are the rows that are found. -/
theorem flatMap_own : (List.range (totalPages log userId query)).flatMap (own log userId query) =
    log.found userId query := by
  have upTo (pages : ℕ) : (List.range pages).flatMap (own log userId query) =
      (log.found userId query).take (pages * query.limit) := by
    induction pages with
    | zero => rw [List.range_zero, Nat.zero_mul, List.take_zero, List.flatMap_nil]
    | succ pages inductionHypothesis =>
      rw [List.range_succ, List.flatMap_append, inductionHypothesis, List.flatMap_singleton,
        Nat.succ_mul, List.take_add]
      rfl
  rw [upTo]
  refine List.take_of_length_le ?_
  have positive := query.limited.1
  unfold totalPages
  have covers := Nat.div_add_mod ((log.found userId query).length + query.limit - 1) query.limit
  have rest := Nat.mod_lt ((log.found userId query).length + query.limit - 1) positive
  rw [Nat.mul_comm]
  omega

/-- A page after which there are rows is not the last. -/
theorem lt_totalPages {index : ℕ} (some : further log userId query index ≠ []) :
    index + 1 < totalPages log userId query := by
  have positive := query.limited.1
  have more : index * query.limit + query.limit < (log.found userId query).length := by
    by_contra few
    refine some ?_
    unfold further
    rw [List.drop_eq_nil_of_le (Nat.le_of_not_lt few), List.take_nil]
  unfold totalPages
  rw [← Nat.succ_le_iff, Nat.le_div_iff_mul_le positive, Nat.succ_mul, Nat.add_mul, Nat.one_mul]
  omega

/-- When no page is filled, all pages together display rows as they are found. -/
theorem partitions_of_fillsNothing
    (none : ∀ index < totalPages log userId query, FillsNothing log userId query index) :
    Partitions log userId query := by
  have isAll : allPages log userId query = ((List.range (totalPages log userId query)).flatMap
      fun index => displayed 0 (own log userId query index)).map Trade.entry := by
    rw [List.map_flatMap]
    refine List.flatMap_congr fun index member => ?_
    rw [trades_getTrades, take_displayed_window,
      (filled_eq_nil_iff index).mpr (none index (List.mem_range.mp member)), List.append_nil]
  have among : ((List.range (totalPages log userId query)).flatMap
      fun index => displayed 0 (own log userId query index)).Sublist (log.found userId query) := by
    have sublist : ∀ indices : List ℕ, (indices.flatMap fun index =>
        displayed 0 (own log userId query index)).Sublist
          (indices.flatMap (own log userId query)) := fun indices => by
      induction indices with
      | nil => exact List.Sublist.refl _
      | cons index rest inductionHypothesis =>
        exact (displayed_sublist 0 _).append inductionHypothesis
    rw [← @flatMap_own log userId query]
    exact sublist _
  refine ⟨fun trade member listed => ?_, ?_, ?_⟩
  · obtain ⟨included, wins⟩ := Trade.loses_entry_of_listed listed
    rw [← @flatMap_own log userId query] at member
    obtain ⟨index, isPage, isOwn⟩ := List.mem_flatMap.mp member
    rw [isAll]
    exact List.mem_map_of_mem (List.mem_flatMap.mpr
      ⟨index, isPage, mem_limitLosses (List.mem_filter.mpr ⟨isOwn, included⟩) wins⟩)
  · rw [isAll, List.pairwise_map]
    exact (found_pairwise.sublist among).imp fun later => later.le
  · rw [isAll, List.map_map]
    exact found_ids.sublist (among.map Trade.id)

theorem mem_take_displayed {rows rest : List Trade} {trade : Trade}
    (isFirst : rows.filter Trade.included = trade :: rest) :
    trade ∈ (displayed 0 rows).take query.limit := by
  obtain ⟨more, isLimit⟩ := Nat.exists_eq_add_of_le' query.limited.1
  have shown : ∃ after, displayed 0 rows = trade :: after := by
    unfold displayed
    rw [isFirst]
    unfold limitLosses
    split_ifs with wins full
    · exact ⟨_, rfl⟩
    · exact absurd full (by decide)
    · exact ⟨_, rfl⟩
  obtain ⟨after, isShown⟩ := shown
  rw [isShown, isLimit, List.take_succ_cons]
  exact List.mem_cons_self

/-- What a page displays is newer than what the next page displays. -/
theorem newer_of_partitions (partitions : Partitions log userId query) {index : ℕ}
    (isPage : index + 1 < totalPages log userId query) {first second : Trade}
    (isFirst : first ∈ (displayed 0 (window log userId query index)).take query.limit)
    (isSecond : second ∈ (displayed 0 (window log userId query (index + 1))).take query.limit) :
    second.createdAt ≤ first.createdAt ∧ first.id ≠ second.id := by
  have both := partitions.descending.and (List.pairwise_map.mp partitions.once)
  have across := List.pairwise_iff_getElem.mp (List.pairwise_flatMap.mp both).2 index (index + 1)
    (by simpa using Nat.lt_of_succ_lt isPage) (by simpa using isPage) (Nat.lt_succ_self index)
  rw [List.getElem_range, List.getElem_range, trades_getTrades, trades_getTrades] at across
  exact across first.entry (List.mem_map_of_mem isFirst) second.entry (List.mem_map_of_mem isSecond)

/-- A row with which a page is filled is displayed again on the next page, or that one displays a
row that is newer. -/
theorem fillsNothing_of_partitions (partitions : Partitions log userId query) (index : ℕ) :
    FillsNothing log userId query index := by
  rw [← filled_eq_nil_iff]
  by_contra some
  obtain ⟨extra, isExtra⟩ := List.exists_mem_of_ne_nil _ some
  have isIncluded : extra ∈ (further log userId query index).filter Trade.included :=
    (limitLosses_sublist _ _).subset (List.mem_of_mem_take isExtra)
  have isPage : index + 1 < totalPages log userId query :=
    lt_totalPages (List.ne_nil_of_mem (List.mem_filter.mp isIncluded).1)
  rcases isFirst : (further log userId query index).filter Trade.included with _ | ⟨first, rest⟩
  · rw [isFirst] at isIncluded
    exact absurd isIncluded List.not_mem_nil
  obtain ⟨later, isWindow⟩ := @further_starts_window log userId query index
  have newer := @newer_of_partitions _ _ _ partitions _ isPage extra first
    (by
      rw [take_displayed_window]
      exact List.mem_append_right _ isExtra)
    (mem_take_displayed (by rw [← isWindow, List.filter_append, isFirst, List.cons_append]))
  rw [isFirst] at isIncluded
  obtain rfl | isLater := List.mem_cons.mp isIncluded
  · exact newer.2 rfl
  · have sorted : (first :: rest).Pairwise fun first second => second.createdAt < first.createdAt := by
      rw [← isFirst]
      exact found_pairwise.sublist (List.filter_sublist.trans
        ((List.take_sublist _ _).trans (List.drop_sublist _ _)))
    exact absurd newer.1 (not_le.mpr (List.rel_of_pairwise_cons sorted isLater))

/-- The pages are a partition of the log just when none is filled from rows after its own. -/
theorem partitions_iff (log : Log) (userId : String) (query : TradesQuery) :
    Partitions log userId query ↔
      ∀ index < totalPages log userId query, FillsNothing log userId query index :=
  ⟨fun partitions index _ => fillsNothing_of_partitions partitions index,
    partitions_of_fillsNothing⟩

end Pages

/-- A row of ten cents, which is not included. -/
def dust : Trade where
  id := "dust"
  userId := "user"
  pair := "SOL/USDT"
  entryPrice := 1
  exitPrice := some 1
  pnl := some 0
  allocationUsd := some (1 / 10)
  status := .closed
  createdAt := 2
  strategyName := "DEX Jupiter SOL"
  riskLevel := .LOW

def held : Trade :=
  { dust with id := "held", exitPrice := none, pnl := none, status := .open, createdAt := 1 }

private theorem dust_ids : ([dust, held].map Trade.id).Nodup := by decide

private theorem dust_times : [dust, held].Pairwise fun first second =>
    first.userId = second.userId → first.createdAt ≠ second.createdAt := by decide

def dustLog : Log := ⟨[dust, held], dust_ids, dust_times⟩

def oneByOne : TradesQuery := ⟨1, .ALL, none, le_rfl, Nat.one_le_ofNat⟩

/-- With one row on a page, the open trade is on both pages. -/
theorem not_partitions_dust : ¬ Partitions dustLog "user" oneByOne := by
  intro partitions
  have isFound : dustLog.found "user" oneByOne = [dust, held] := by
    have given : [dust, held].Pairwise fun first second =>
        decide (second.createdAt ≤ first.createdAt) = true := by decide
    exact List.mergeSort_of_pairwise given
  have excluded : dust.included = false := by decide +kernel
  obtain all | none := fillsNothing_of_partitions partitions 0
  · refine absurd (all.1 dust ?_) (by rw [excluded]; exact Bool.false_ne_true)
    rw [own, isFound]
    exact List.mem_cons_self
  · refine absurd (none held ?_ rfl).1 (by decide)
    rw [further, isFound]
    exact List.mem_cons_self

end GdslExchange.Trades.PublicLog
