/-
This file says what a merge does to the OPEN rows of each pair, and when it
keeps the position.

A merge leaves one row a pair, at the mean price of the rows weighted by cost.
It keeps the cost always, and the quantity only of rows with one price. A buy
that is added to a row, and merged with the others, is the same mean once more.
-/

import GdslExchange.Jupiter.SellAccounting
import GdslExchange.Numeric.Mean
import Mathlib.Data.List.Sort

namespace GdslExchange.Jupiter

open Async Async.Program
open Numeric

/-! ### The rows of a pair -/

section Rows

variable {trades later : List Trade} {pair : String}

theorem rows_sorted (trades : List Trade) :
    (rows trades).Pairwise fun first second => first.id < second.id := by
  have ids : (rows trades).map Stored.id = List.range trades.length := by
    refine List.ext_getElem (by simp [rows]) fun position _ _ => ?_
    simp [rows]
  refine List.pairwise_map.mp ?_
  rw [ids]
  exact List.pairwise_lt_range

theorem openRowsOf_eq {lot : List (Stored Trade)}
    (sorted : lot.Pairwise fun first second => first.id < second.id)
    (same : ∀ stored, stored ∈ openRowsOf pair trades ↔ stored ∈ lot) :
    openRowsOf pair trades = lot := by
  have nodup : lot.Nodup := sorted.imp fun below => fun same => absurd (congrArg Stored.id same) below.ne
  refine List.Perm.eq_of_pairwise (fun first second _ _ below above => ?_)
    ((rows_sorted trades).filter _) sorted
    ((List.perm_ext_iff_of_nodup ((nodup_rows trades).filter _) nodup).mpr same)
  exact absurd below above.not_gt

theorem openRowsOf_sorted (pair : String) (trades : List Trade) :
    (openRowsOf pair trades).Pairwise fun first second => first.id < second.id :=
  (rows_sorted trades).filter _

theorem openRowsOf_congr (same : ∀ (id : ℕ) (row : Trade), row.pair = pair → row.IsOpen →
    (later[id]? = some row ↔ trades[id]? = some row)) :
    openRowsOf pair later = openRowsOf pair trades := by
  refine openRowsOf_eq (openRowsOf_sorted pair trades) fun stored => ?_
  rw [mem_openRowsOf, mem_openRowsOf]
  constructor
  · rintro ⟨found, isPair, isOpen⟩
    exact ⟨(same _ _ isPair isOpen).mp found, isPair, isOpen⟩
  · rintro ⟨found, isPair, isOpen⟩
    exact ⟨(same _ _ isPair isOpen).mpr found, isPair, isOpen⟩

theorem openCost_eq_openRowsOf (pair : String) (trades : List Trade) :
    openCost pair trades = ((openRowsOf pair trades).map fun stored => stored.row.alloc).sum := by
  rw [openCost_eq_rows]
  unfold openRowsOf
  induction rows trades with
  | nil => rfl
  | cons stored rest inductionHypothesis =>
    rw [List.map_cons, List.sum_cons, inductionHypothesis]
    by_cases isRow : stored.row.pair = pair ∧ stored.row.IsOpen
    · rw [List.filter_cons_of_pos (by simpa using isRow), List.map_cons, List.sum_cons,
        Trade.carries, if_pos isRow]
    · rw [List.filter_cons_of_neg (by simpa using isRow), Trade.carries, if_neg isRow, zero_add]

theorem openRowsOf_set_other {id : ℕ} {row : Trade} (found : trades[id]? = some row)
    (patch : TradePatch) (isOther : row.pair ≠ pair) :
    openRowsOf pair (trades.set id (patch.apply row)) = openRowsOf pair trades := by
  refine openRowsOf_congr fun position current isPair isOpen => ?_
  rcases eq_or_ne id position with rfl | elsewhere
  · rw [List.getElem?_set_self (List.getElem?_eq_some_iff.mp found).1, found,
      Option.some.injEq, Option.some.injEq]
    constructor
    · rintro rfl
      exact absurd isPair isOther
    · rintro rfl
      exact absurd isPair isOther
  · rw [List.getElem?_set_ne elsewhere]

theorem openRowsOf_cancelWhere_other {predicate : Stored Trade → Bool}
    (others : ∀ stored ∈ rows trades, predicate stored → stored.row.pair ≠ pair) :
    openRowsOf pair (cancelWhere predicate trades) = openRowsOf pair trades := by
  refine openRowsOf_congr fun id row isPair isOpen => ?_
  rw [getElem?_cancelWhere]
  constructor
  · intro found
    obtain ⟨before, isBefore, isRow⟩ := Option.map_eq_some_iff.mp found
    split_ifs at isRow
    · subst isRow
      cases isOpen
    · subst isRow
      exact isBefore
  · intro found
    rw [found]
    refine congrArg some (if_neg fun holds => ?_)
    exact others ⟨id, row⟩ (mem_rows.mpr found) holds isPair

theorem openRowsOf_collapse {primary : Stored Trade} {rest : List (Stored Trade)}
    (isLot : openRowsOf pair trades = primary :: rest) {patch : TradePatch}
    (stays : (patch.apply primary.row).IsOpen) :
    openRowsOf pair (cancelWhere (fun stored => stored.id ∈ rest.map Stored.id ∧ stored.row.IsOpen)
      (trades.set primary.id (patch.apply primary.row))) =
      [⟨primary.id, patch.apply primary.row⟩] := by
  have member : ∀ stored, stored ∈ primary :: rest ↔
      trades[stored.id]? = some stored.row ∧ stored.row.pair = pair ∧ stored.row.IsOpen :=
    fun stored => by rw [← isLot, mem_openRowsOf]
  obtain ⟨found, isPair, _⟩ := (member primary).mp List.mem_cons_self
  have sorted := openRowsOf_sorted pair trades
  rw [isLot, List.pairwise_cons] at sorted
  have notExtra : primary.id ∉ rest.map Stored.id := by
    intro isExtra
    obtain ⟨extra, inRest, sameId⟩ := List.mem_map.mp isExtra
    exact absurd sameId (sorted.1 extra inRest).ne'
  have inBook : primary.id < trades.length := (List.getElem?_eq_some_iff.mp found).1
  refine openRowsOf_eq (List.pairwise_singleton _ _) fun stored => ?_
  rw [mem_openRowsOf, getElem?_cancelWhere, List.mem_singleton]
  constructor
  · rintro ⟨isStored, ofPair, isOpen⟩
    obtain ⟨before, isBefore, isRow⟩ := Option.map_eq_some_iff.mp isStored
    split_ifs at isRow with cancelled
    · rw [← isRow] at isOpen
      cases isOpen
    · subst isRow
      rcases eq_or_ne primary.id stored.id with isPrimary | elsewhere
      · rw [← isPrimary, List.getElem?_set_self inBook, Option.some.injEq] at isBefore
        cases stored
        cases isPrimary
        cases isBefore
        rfl
      · rw [List.getElem?_set_ne elsewhere] at isBefore
        have inLot := (member stored).mpr ⟨isBefore, ofPair, isOpen⟩
        rcases List.mem_cons.mp inLot with isPrimary | inRest
        · exact absurd (congrArg Stored.id isPrimary).symm elsewhere
        · refine absurd (decide_eq_true ?_) cancelled
          exact ⟨List.mem_map_of_mem inRest, isOpen⟩
  · rintro rfl
    refine ⟨?_, isPair, stays⟩
    rw [List.getElem?_set_self inBook]
    refine congrArg some (if_neg fun holds => ?_)
    exact notExtra (of_decide_eq_true holds).1

theorem openRowsOf_set_head {primary : Stored Trade} {rest : List (Stored Trade)}
    (isLot : openRowsOf pair trades = primary :: rest) {patch : TradePatch}
    (stays : (patch.apply primary.row).IsOpen) :
    openRowsOf pair (trades.set primary.id (patch.apply primary.row)) =
      ⟨primary.id, patch.apply primary.row⟩ :: rest := by
  have member : ∀ stored, stored ∈ primary :: rest ↔
      trades[stored.id]? = some stored.row ∧ stored.row.pair = pair ∧ stored.row.IsOpen :=
    fun stored => by rw [← isLot, mem_openRowsOf]
  obtain ⟨found, isPair, _⟩ := (member primary).mp List.mem_cons_self
  have sorted := openRowsOf_sorted pair trades
  rw [isLot, List.pairwise_cons] at sorted
  have inBook : primary.id < trades.length := (List.getElem?_eq_some_iff.mp found).1
  refine openRowsOf_eq (List.pairwise_cons.mpr sorted) fun stored => ?_
  rw [mem_openRowsOf, List.mem_cons]
  rcases eq_or_ne primary.id stored.id with isPrimary | elsewhere
  · have notRest : stored ∉ rest := fun inRest => absurd isPrimary (sorted.1 stored inRest).ne
    rw [← isPrimary, List.getElem?_set_self inBook, or_iff_left notRest, Option.some.injEq]
    constructor
    · rintro ⟨isRow, _⟩
      rw [isPrimary, isRow]
    · rintro rfl
      exact ⟨rfl, isPair, stays⟩
  · rw [List.getElem?_set_ne elsewhere, ← member, List.mem_cons]
    refine or_congr_left ⟨?_, ?_⟩
    · rintro rfl
      exact absurd rfl elsewhere
    · rintro rfl
      exact absurd rfl elsewhere

theorem openRowsOf_collapse_other {primary : Stored Trade} {rest : List (Stored Trade)}
    (isLot : openRowsOf pair trades = primary :: rest) (patch : TradePatch) {other : String}
    (different : other ≠ pair) :
    openRowsOf other (cancelWhere (fun stored =>
      stored.id ∈ rest.map Stored.id ∧ stored.row.IsOpen)
      (trades.set primary.id (patch.apply primary.row))) = openRowsOf other trades := by
  have member : ∀ stored ∈ primary :: rest,
      trades[stored.id]? = some stored.row ∧ stored.row.pair = pair ∧ stored.row.IsOpen :=
    fun stored inLot => mem_openRowsOf.mp (by rw [isLot]; exact inLot)
  obtain ⟨found, isPair, _⟩ := member primary List.mem_cons_self
  have isOther : primary.row.pair ≠ other := by
    rw [isPair]
    exact different.symm
  refine (openRowsOf_cancelWhere_other fun stored inRows holds => ?_).trans
    (openRowsOf_set_other found patch isOther)
  obtain ⟨extra, inRest, sameId⟩ := List.mem_map.mp (of_decide_eq_true holds).1
  have same : SamePairs trades rest := fun read inRest =>
    ⟨read.row, (member read (List.mem_cons_of_mem _ inRest)).1, rfl⟩
  obtain ⟨current, isCurrent, samePair⟩ := same.set found patch extra inRest
  rw [sameId, mem_rows.mp inRows, Option.some.injEq] at isCurrent
  rw [isCurrent, samePair, (member extra (List.mem_cons_of_mem _ inRest)).2.1]
  exact different.symm

end Rows

/-- The skims of a lot, as they stand on its rows. -/
def lotBanked (lot : List (Stored Trade)) : ℚ := (lot.map fun stored => stored.row.banked).sum

/-! ### One pair's turn -/

/-- The book answers whatever it is asked. -/
structure Answering (fates : (op : Op) → Fate op) : Prop where
  strategy : fates .ensureJupiterStrategyId = Delivery.answered
  findOne : ∀ pair, fates (.findOpenTrade pair) = Delivery.answered
  findAll : fates .findOpenTrades = Delivery.answered
  findEvery : fates .findTrades = Delivery.answered
  update : ∀ id patch, fates (.updateTrade id patch) = Delivery.answered
  cancel : ∀ ids, fates (.cancelOpenTrades ids) = Delivery.answered

/-- The OPEN rows of a pair after its turn. -/
def mergedLot : List (Stored Trade) → List (Stored Trade)
  | primary :: extra :: rest =>
    [⟨primary.id, (mergePatch primary.row (primary :: extra :: rest)).apply primary.row⟩]
  | lot => lot

theorem mergedLot_short {lot : List (Stored Trade)} (short : lot.length ≤ 1) :
    mergedLot lot = lot := by
  rcases lot with _ | ⟨single, _ | ⟨extra, rest⟩⟩
  · rfl
  · rfl
  · simp at short

theorem length_mergedLot (lot : List (Stored Trade)) :
    (mergedLot lot).length = min 1 lot.length := by
  match lot with
  | [] => rfl
  | [_] => rfl
  | _ :: _ :: rest => simp [mergedLot]

section Turns

variable {fates : (op : Op) → Fate op} (answering : Answering fates) {desk : Desk}
  {pair : String}
include answering

theorem exec_updateTrade {id : ℕ} {row : Trade} (found : desk.trades[id]? = some row)
    (patch : TradePatch) : (await (.updateTrade id patch)).exec fates desk =
      (desk.store (desk.trades.set id (patch.apply row)), .ok ⟨id, patch.apply row⟩) := by
  refine (exec_perform _ _).trans ?_
  simp only [perform, found, answering.update]
  rfl

theorem exec_cancelOpenTrades (ids : List ℕ) : (await (.cancelOpenTrades ids)).exec fates desk =
    (desk.store (cancelWhere (fun stored => stored.id ∈ ids ∧ stored.row.IsOpen) desk.trades),
      .ok ()) := by
  refine (exec_perform _ _).trans ?_
  simp only [perform, answering.cancel]
  rfl

theorem exec_mergeLot {lot : List (Stored Trade)} (isLot : openRowsOf pair desk.trades = lot) :
    ∃ reached, (mergeLot lot).exec fates desk = (reached, .ok ()) ∧
      openRowsOf pair reached.trades = mergedLot lot ∧
      ∀ other ≠ pair, openRowsOf other reached.trades = openRowsOf other desk.trades := by
  match lot, isLot with
  | [], isLot => exact ⟨desk, rfl, isLot, fun _ _ => rfl⟩
  | [single], isLot => exact ⟨desk, rfl, isLot, fun _ _ => rfl⟩
  | primary :: extra :: rest, isLot =>
    obtain ⟨found, _, isOpen⟩ := mem_openRowsOf.mp (isLot ▸ List.mem_cons_self :
      primary ∈ openRowsOf pair desk.trades)
    have updated := exec_updateTrade answering found
      (mergePatch primary.row (primary :: extra :: rest))
    exact ⟨_, (exec_bind_ok updated).trans (exec_cancelOpenTrades answering _),
      openRowsOf_collapse isLot isOpen, fun other => openRowsOf_collapse_other isLot _⟩

/-- The pairs take their turns one after the other. -/
theorem exec_mergeLots {pairs : List String} (nodup : pairs.Nodup)
    {lots : String → List (Stored Trade)} (desk : Desk)
    (asRead : ∀ pair ∈ pairs, openRowsOf pair desk.trades = lots pair) :
    ∃ reached, (forEach mergeLot (pairs.map lots)).exec fates desk = (reached, .ok ()) ∧
      (∀ pair ∈ pairs, openRowsOf pair reached.trades = mergedLot (lots pair)) ∧
      ∀ pair ∉ pairs, openRowsOf pair reached.trades = openRowsOf pair desk.trades := by
  induction pairs generalizing desk with
  | nil => exact ⟨desk, rfl, List.forall_mem_nil _, fun _ _ => rfl⟩
  | cons pair rest inductionHypothesis =>
    rw [List.nodup_cons] at nodup
    obtain ⟨next, turn, merged, others⟩ :=
      exec_mergeLot answering (asRead pair List.mem_cons_self)
    obtain ⟨reached, turns, inRest, outside⟩ := inductionHypothesis nodup.2 next
      fun other member => by
        rw [others other (ne_of_mem_of_not_mem member nodup.1)]
        exact asRead other (List.mem_cons_of_mem _ member)
    refine ⟨reached, (exec_bind_ok turn).trans turns, fun other member => ?_,
      fun other notMember => ?_⟩
    · rcases List.mem_cons.mp member with rfl | inLater
      · rw [outside other nodup.1, merged]
      · exact inRest other inLater
    · rw [List.mem_cons, not_or] at notMember
      rw [outside other notMember.2, others other notMember.1]

end Turns

/-- Groups of at most one row are passed over. -/
theorem exec_mergeLots_short {fates : (op : Op) → Fate op} {lots : List (List (Stored Trade))}
    (short : ∀ lot ∈ lots, lot.length ≤ 1) (desk : Desk) :
    (forEach mergeLot lots).exec fates desk = (desk, .ok ()) := by
  induction lots with
  | nil => rfl
  | cons lot rest inductionHypothesis =>
    have passed : (mergeLot lot).exec fates desk = (desk, .ok ()) := by
      have atMostOne := short lot List.mem_cons_self
      rcases lot with _ | ⟨single, _ | ⟨extra, later⟩⟩
      · rfl
      · rfl
      · simp at atMostOne
    exact (exec_bind_ok passed).trans
      (inductionHypothesis fun other member => short other (List.mem_cons_of_mem _ member))

/-! ### The merge -/

theorem nodup_eraseDups (keys : List String) : keys.eraseDups.Nodup := by
  induction length : keys.length using Nat.strong_induction_on generalizing keys with
  | _ size inductionHypothesis =>
    cases keys with
    | nil => exact List.nodup_nil
    | cons key rest =>
      rw [List.eraseDups_cons, List.nodup_cons]
      refine ⟨fun member => ?_, inductionHypothesis _ ?_ _ rfl⟩
      · simpa using (List.mem_filter.mp (List.mem_eraseDups.mp member)).2
      · rw [← length, List.length_cons]
        exact Nat.lt_succ_of_le (List.length_filter_le _ _)

section Merge

variable {fates : (op : Op) → Fate op} (answering : Answering fates)
include answering

theorem exec_ensureJupiterStrategyId (desk : Desk) :
    (await .ensureJupiterStrategyId).exec fates desk = (desk, .ok ()) := by
  refine (exec_perform _ _).trans ?_
  simp only [perform, answering.strategy]
  rfl

theorem exec_findOpenTrades (desk : Desk) :
    (await .findOpenTrades).exec fates desk = (desk, .ok (openRows desk.trades)) := by
  refine (exec_perform _ _).trans ?_
  simp only [perform, answering.findAll]
  rfl

theorem exec_merge_read (desk : Desk) : mergeDuplicateJupiterOpenTrades.exec fates desk =
    (if (openRows desk.trades).length < 2 then pure 0
      else do
        forEach mergeLot (byPair (openRows desk.trades))
        pure (duplicates (openRows desk.trades)) : Call ℕ).exec fates desk :=
  (exec_bind_ok (exec_ensureJupiterStrategyId answering desk)).trans
    (exec_bind_ok (exec_findOpenTrades answering desk))

theorem exec_merge (desk : Desk) : ∃ reached count,
    mergeDuplicateJupiterOpenTrades.exec fates desk = (reached, .ok count) ∧
      ∀ pair, openRowsOf pair reached.trades = mergedLot (openRowsOf pair desk.trades) := by
  rw [exec_merge_read answering]
  have lots : ∀ pair, (openRows desk.trades).filter (fun stored => stored.row.pair = pair) =
      openRowsOf pair desk.trades := fun pair => filter_openRows pair desk.trades
  by_cases few : (openRows desk.trades).length < 2
  · rw [if_pos few]
    refine ⟨desk, 0, rfl, fun pair => ?_⟩
    refine (mergedLot_short ?_).symm
    rw [← lots pair]
    exact (List.length_filter_le _ _).trans (Nat.le_of_lt_succ few)
  · rw [if_neg few]
    obtain ⟨reached, ran, merged, outside⟩ := exec_mergeLots answering
      (nodup_eraseDups ((openRows desk.trades).map fun stored => stored.row.pair)) desk
      fun pair _ => (lots pair).symm
    refine ⟨reached, _, exec_bind_ok ran, fun pair => ?_⟩
    by_cases present : pair ∈ ((openRows desk.trades).map fun stored => stored.row.pair).eraseDups
    · rw [merged pair present, lots]
    · rw [outside pair present]
      have none : openRowsOf pair desk.trades = [] := by
        refine List.eq_nil_iff_forall_not_mem.mpr fun stored member => present ?_
        obtain ⟨found, isPair, isOpen⟩ := mem_openRowsOf.mp member
        refine List.mem_eraseDups.mpr (List.mem_map.mpr ⟨stored, ?_, isPair⟩)
        exact mem_openRows.mpr ⟨found, isOpen⟩
      rw [none]
      rfl

theorem exec_merge_single {desk : Desk}
    (single : ∀ pair, (openRowsOf pair desk.trades).length ≤ 1) :
    (mergeDuplicateJupiterOpenTrades.exec fates desk).1 = desk := by
  rw [exec_merge_read answering]
  split
  · rfl
  · refine congrArg Prod.fst (exec_bind_ok (exec_mergeLots_short (fun lot isLot => ?_) desk))
    obtain ⟨pair, _, rfl⟩ := List.mem_map.mp isLot
    rw [filter_openRows]
    exact single pair

end Merge

/-! ### What a merge keeps of a lot -/

section Lots

variable {lot : List (Stored Trade)}

/-- No skim of a lot was made at a loss, or only that of its oldest row. -/
def SkimsAdd (lot : List (Stored Trade)) : Prop :=
  (∀ stored ∈ lot, 0 ≤ stored.row.banked) ∨
    (∀ stored ∈ lot, stored.row.banked ≤ 0) ∧ ∀ stored ∈ lot.tail, stored.row.banked = 0

def countedRows (lot : List (Stored Trade)) : List (Stored Trade) :=
  lot.filter fun stored => stored.row.Counted

theorem countedRows_eq (counted : ∀ stored ∈ lot, stored.row.Counted) : countedRows lot = lot :=
  List.filter_eq_self.mpr fun stored member => decide_eq_true (counted stored member)

theorem counted_countedRows (lot : List (Stored Trade)) :
    ∀ stored ∈ countedRows lot, stored.row.Counted :=
  fun _ member => of_decide_eq_true (List.mem_filter.mp member).2

theorem sum_counted (amount : Stored Trade → ℚ) (lot : List (Stored Trade)) :
    (lot.map fun stored => if stored.row.Counted then amount stored else 0).sum =
      ((countedRows lot).map amount).sum := by
  unfold countedRows
  induction lot with
  | nil => rfl
  | cons stored rest inductionHypothesis =>
    rw [List.map_cons, List.sum_cons, inductionHypothesis]
    by_cases counted : stored.row.Counted
    · rw [if_pos counted, List.filter_cons_of_pos (by simpa using counted), List.map_cons,
        List.sum_cons]
    · rw [if_neg counted, List.filter_cons_of_neg (by simpa using counted), zero_add]

theorem totalAlloc_eq (lot : List (Stored Trade)) : totalAlloc lot =
    totalCost (fun stored : Stored Trade => stored.row.alloc) (countedRows lot) :=
  sum_counted _ lot

theorem weightedEntry_eq (lot : List (Stored Trade)) : weightedEntry lot =
    ((countedRows lot).map fun stored => stored.row.entryPrice * stored.row.alloc).sum :=
  sum_counted _ lot

theorem lotQuantity_eq (lot : List (Stored Trade)) : lotQuantity lot =
    totalQuantity (fun stored : Stored Trade => stored.row.alloc)
      (fun stored => stored.row.entryPrice) (countedRows lot) :=
  sum_counted _ lot

theorem apply_mergePatch {primary : Trade} (some : countedRows lot ≠ []) :
    ((mergePatch primary lot).apply primary).alloc =
        totalCost (fun stored : Stored Trade => stored.row.alloc) (countedRows lot) ∧
      ((mergePatch primary lot).apply primary).entryPrice =
        meanPrice (fun stored : Stored Trade => stored.row.alloc)
          (fun stored => stored.row.entryPrice) (countedRows lot) := by
  have costPositive : totalAlloc lot > 0 := by
    rw [totalAlloc_eq]
    exact totalCost_pos (fun stored member => (counted_countedRows lot stored member).1) some
  have weightPositive : weightedEntry lot > 0 := by
    rw [weightedEntry_eq]
    exact weighted_pos (fun stored member => (counted_countedRows lot stored member).1)
      (fun stored member => (counted_countedRows lot stored member).2) some
  constructor
  · rw [← totalAlloc_eq]
    simp only [mergePatch, if_pos costPositive, TradePatch.apply, Trade.alloc, Option.getD_some]
  · unfold meanPrice
    rw [← totalAlloc_eq, ← weightedEntry_eq]
    simp only [mergePatch, TradePatch.apply, Option.getD_some]
    exact if_pos ⟨costPositive, weightPositive⟩

theorem apply_mergePatch_uncounted {primary : Trade} (none : countedRows lot = []) :
    ((mergePatch primary lot).apply primary).alloc = primary.alloc ∧
      ((mergePatch primary lot).apply primary).entryPrice = primary.entryPrice := by
  have nothing : ¬ totalAlloc lot > 0 := by
    rw [totalAlloc_eq, none]
    exact lt_irrefl 0
  constructor
  · simp only [mergePatch, if_neg nothing, TradePatch.apply, Trade.alloc, Option.getD_some]
  · simp only [mergePatch, TradePatch.apply, Option.getD_some]
    exact if_neg fun both => nothing both.1

theorem totalCost_countedRows
    (counted : ∀ stored ∈ lot, stored.row.Counted ∨ stored.row.alloc = 0) :
    totalCost (fun stored : Stored Trade => stored.row.alloc) (countedRows lot) =
      (lot.map fun stored => stored.row.alloc).sum := by
  rw [← totalAlloc_eq]
  unfold totalAlloc
  congr 1
  refine List.map_congr_left fun stored member => ?_
  rcases counted stored member with isCounted | nothing
  · rw [if_pos isCounted]
  · rw [nothing, ite_self]

theorem alloc_merged {primary : Stored Trade} (member : primary ∈ lot)
    (counted : ∀ stored ∈ lot, stored.row.Counted ∨ stored.row.alloc = 0) :
    ((mergePatch primary.row lot).apply primary.row).alloc =
      (lot.map fun stored => stored.row.alloc).sum := by
  rw [← totalCost_countedRows counted]
  by_cases none : countedRows lot = []
  · have uncounted : ¬ primary.row.Counted := by
      intro isCounted
      have present : primary ∈ countedRows lot :=
        List.mem_filter.mpr ⟨member, decide_eq_true isCounted⟩
      rw [none] at present
      cases present
    rw [(apply_mergePatch_uncounted none).1, (counted primary member).resolve_left uncounted, none]
    rfl
  · exact (apply_mergePatch none).1

theorem cost_mergedLot (counted : ∀ stored ∈ lot, stored.row.Counted ∨ stored.row.alloc = 0) :
    ((mergedLot lot).map fun stored => stored.row.alloc).sum =
      (lot.map fun stored => stored.row.alloc).sum := by
  match lot, counted with
  | [], _ => rfl
  | [_], _ => rfl
  | primary :: extra :: rest, counted =>
    rw [mergedLot, List.map_singleton, List.sum_singleton]
    exact alloc_merged List.mem_cons_self counted

theorem lotQuantity_mergedLot (some : countedRows lot ≠ []) : lotQuantity (mergedLot lot) =
      totalCost (fun stored : Stored Trade => stored.row.alloc) (countedRows lot) /
        meanPrice (fun stored : Stored Trade => stored.row.alloc)
          (fun stored => stored.row.entryPrice) (countedRows lot) := by
  match lot, some with
  | [], some => exact absurd rfl some
  | [single], some =>
    have isCounted : single.row.Counted := by
      by_contra uncounted
      exact some (List.filter_cons_of_neg (by simpa using uncounted))
    have same : countedRows [single] = [single] :=
      countedRows_eq fun stored member => by rw [List.mem_singleton.mp member]; exact isCounted
    have costly := isCounted.1
    show lotQuantity [single] = _
    rw [lotQuantity_eq, same]
    simp only [totalQuantity, meanPrice, totalCost, List.map_singleton, List.sum_singleton]
    field_simp
  | primary :: extra :: rest, some =>
    obtain ⟨isCost, isMean⟩ := @apply_mergePatch _ primary.row some
    have counted := counted_countedRows (primary :: extra :: rest)
    have isCounted :
        ((mergePatch primary.row (primary :: extra :: rest)).apply primary.row).Counted := by
      refine ⟨?_, ?_⟩
      · rw [isCost]
        exact totalCost_pos (fun stored member => (counted stored member).1) some
      · rw [isMean]
        exact meanPrice_pos (fun stored member => (counted stored member).1)
          (fun stored member => (counted stored member).2) some
    unfold lotQuantity
    rw [mergedLot, List.map_singleton, List.sum_singleton, if_pos isCounted, ← isCost, ← isMean]

/-- A merge never adds to the quantity. -/
theorem quantity_mergedLot_le (lot : List (Stored Trade)) :
    lotQuantity (mergedLot lot) ≤ lotQuantity lot := by
  by_cases none : countedRows lot = []
  · match lot, none with
    | [], _ => exact le_rfl
    | [_], _ => exact le_rfl
    | primary :: extra :: rest, none =>
      have uncounted : ¬ primary.row.Counted := by
        intro isCounted
        have present : primary ∈ countedRows (primary :: extra :: rest) :=
          List.mem_filter.mpr ⟨List.mem_cons_self, decide_eq_true isCounted⟩
        rw [none] at present
        cases present
      obtain ⟨isCost, isPrice⟩ := @apply_mergePatch_uncounted _ primary.row none
      have stillUncounted :
          ¬ ((mergePatch primary.row (primary :: extra :: rest)).apply primary.row).Counted := by
        unfold Trade.Counted
        rw [isCost, isPrice]
        exact uncounted
      have merged : lotQuantity (mergedLot (primary :: extra :: rest)) = 0 := by
        unfold lotQuantity
        rw [mergedLot, List.map_singleton, List.sum_singleton, if_neg stillUncounted]
      rw [merged, lotQuantity_eq, none]
      exact le_rfl
  · rw [lotQuantity_mergedLot none, lotQuantity_eq lot]
    exact totalCost_div_meanPrice_le (fun stored member => (counted_countedRows lot stored member).1)
      (fun stored member => (counted_countedRows lot stored member).2) none

theorem quantity_mergedLot_iff (counted : ∀ stored ∈ lot, stored.row.Counted) :
    lotQuantity (mergedLot lot) = lotQuantity lot ↔
      OnePrice (fun stored : Stored Trade => stored.row.entryPrice) lot := by
  rcases eq_or_ne lot [] with rfl | nonempty
  · exact iff_of_true rfl (List.forall_mem_nil _)
  · have same := countedRows_eq counted
    rw [lotQuantity_mergedLot (by rw [same]; exact nonempty), lotQuantity_eq, same]
    exact totalCost_div_meanPrice_eq_iff (fun stored member => (counted stored member).1)
      (fun stored member => (counted stored member).2) nonempty

theorem bankedSkim_eq_iff :
    bankedSkim lot = lotBanked lot ↔ ∀ stored ∈ lot, 0 ≤ stored.row.banked := by
  have gap : bankedSkim lot = lotBanked lot +
      (lot.map fun stored => max 0 stored.row.banked - stored.row.banked).sum := by
    unfold bankedSkim lotBanked
    rw [← List.sum_map_add]
    exact congrArg List.sum (List.map_congr_left fun stored _ => (add_sub_cancel _ _).symm)
  rw [gap, add_eq_left]
  constructor
  · intro none stored member
    have term := List.all_zero_of_le_zero_le_of_sum_eq_zero (fun amount inTerms => ?_) none
      (List.mem_map_of_mem member)
    · rw [← sub_eq_zero.mp term]
      exact le_max_left _ _
    · obtain ⟨other, _, rfl⟩ := List.mem_map.mp inTerms
      exact sub_nonneg.mpr (le_max_right _ _)
  · intro nonneg
    refine List.sum_eq_zero fun amount inTerms => ?_
    obtain ⟨stored, member, rfl⟩ := List.mem_map.mp inTerms
    rw [max_eq_right (nonneg stored member), sub_self]

theorem banked_nonpos (none : ¬ bankedSkim lot > 0) : ∀ stored ∈ lot, stored.row.banked ≤ 0 := by
  have nonneg : ∀ amount ∈ lot.map fun stored => max 0 stored.row.banked, 0 ≤ amount := by
    intro amount inTerms
    obtain ⟨other, _, rfl⟩ := List.mem_map.mp inTerms
    exact le_max_left _ _
  intro stored member
  have zero : max 0 stored.row.banked = 0 := List.all_zero_of_le_zero_le_of_sum_eq_zero nonneg
    (le_antisymm (not_lt.mp none) (List.sum_nonneg nonneg)) (List.mem_map_of_mem member)
  rw [← zero]
  exact le_max_right _ _

theorem lotBanked_eq_zero_iff (losses : ∀ stored ∈ lot, stored.row.banked ≤ 0) :
    lotBanked lot = 0 ↔ ∀ stored ∈ lot, stored.row.banked = 0 := by
  constructor
  · intro none stored member
    have negated : (lot.map fun stored => -1 * stored.row.banked).sum = 0 := by
      rw [List.sum_map_mul_left]
      exact mul_eq_zero_of_right _ none
    have term := List.all_zero_of_le_zero_le_of_sum_eq_zero (fun amount inTerms => ?_) negated
      (List.mem_map_of_mem member)
    · linarith
    · obtain ⟨other, inLot, rfl⟩ := List.mem_map.mp inTerms
      linarith [losses other inLot]
  · intro zeros
    refine List.sum_eq_zero fun amount inTerms => ?_
    obtain ⟨stored, member, rfl⟩ := List.mem_map.mp inTerms
    exact zeros stored member

theorem banked_mergedLot_iff : lotBanked (mergedLot lot) = lotBanked lot ↔ SkimsAdd lot := by
  match lot with
  | [] => exact iff_of_true rfl (Or.inl (List.forall_mem_nil _))
  | [single] =>
    refine iff_of_true rfl ?_
    rcases le_total 0 single.row.banked with gain | loss
    · exact Or.inl fun stored member => by rw [List.mem_singleton.mp member]; exact gain
    · exact Or.inr ⟨fun stored member => by rw [List.mem_singleton.mp member]; exact loss,
        List.forall_mem_nil _⟩
  | primary :: extra :: rest =>
    have merged : lotBanked (mergedLot (primary :: extra :: rest)) =
        ((mergePatch primary.row (primary :: extra :: rest)).apply primary.row).banked := by
      unfold lotBanked
      rw [mergedLot, List.map_singleton, List.sum_singleton]
    rw [merged]
    by_cases positive : bankedSkim (primary :: extra :: rest) > 0
    · have isSkim : ((mergePatch primary.row (primary :: extra :: rest)).apply primary.row).banked =
          bankedSkim (primary :: extra :: rest) := by
        simp only [mergePatch, if_pos positive, TradePatch.apply, Trade.banked]
        rfl
      rw [isSkim, bankedSkim_eq_iff]
      refine ⟨Or.inl, fun add => add.resolve_right fun losses => positive.ne' ?_⟩
      refine List.sum_eq_zero fun amount inTerms => ?_
      obtain ⟨stored, member, rfl⟩ := List.mem_map.mp inTerms
      exact max_eq_left (losses.1 stored member)
    · have isOld : ((mergePatch primary.row (primary :: extra :: rest)).apply primary.row).banked =
          primary.row.banked := by
        simp only [mergePatch, if_neg positive, TradePatch.apply, Trade.banked, Option.none_or]
      have losses := banked_nonpos positive
      have tail : lotBanked (primary :: extra :: rest) =
          primary.row.banked + lotBanked (extra :: rest) := List.sum_cons
      rw [isOld, tail, eq_comm, add_eq_left,
        lotBanked_eq_zero_iff fun stored member => losses stored (List.mem_cons_of_mem _ member)]
      constructor
      · exact fun zeros => Or.inr ⟨losses, zeros⟩
      · rintro (gains | both) stored member
        · exact le_antisymm (losses stored (List.mem_cons_of_mem _ member))
            (gains stored (List.mem_cons_of_mem _ member))
        · exact both.2 stored member

end Lots

/-! ### A buy added to a lot -/

section Buying

variable {row : Trade} {rest : List (Stored Trade)} {cost price : ℚ}

/-- The purchases that a lot stands for, and one more. -/
def purchases (cost price : ℚ) (lot : List (Stored Trade)) : List (ℚ × ℚ) :=
  (cost, price) :: lot.map fun stored => (stored.row.alloc, stored.row.entryPrice)

theorem totalQuantity_purchases {lot : List (Stored Trade)}
    (counted : ∀ stored ∈ lot, stored.row.Counted) :
    totalQuantity Prod.fst Prod.snd (purchases cost price lot) =
      cost / price + lotQuantity lot := by
  rw [lotQuantity_eq, countedRows_eq counted]
  simp only [totalQuantity, purchases, List.map_cons, List.map_map, List.sum_cons]
  rfl

theorem onePrice_purchases_iff (lot : List (Stored Trade)) :
    OnePrice Prod.snd (purchases cost price lot) ↔
      ∀ stored ∈ lot, stored.row.entryPrice = price := by
  unfold OnePrice purchases
  simp only [List.forall_mem_cons, List.forall_mem_map]
  constructor
  · rintro ⟨_, same⟩ stored member
    exact (same stored member).1
  · intro same
    refine ⟨⟨trivial, fun stored member => (same stored member).symm⟩, fun stored member =>
      ⟨same stored member, fun other inLot => ?_⟩⟩
    rw [same stored member, same other inLot]

theorem apply_buyPatch (counted : row.Counted) (bought : 0 < cost) :
    ((buyPatch row cost price).apply row).alloc = row.alloc + cost ∧
      ((buyPatch row cost price).apply row).entryPrice * (row.alloc + cost) =
        row.entryPrice * row.alloc + price * cost := by
  obtain ⟨costly, priced⟩ := counted
  have isAlloc : ((buyPatch row cost price).apply row).alloc = max 0 row.alloc + cost := rfl
  have isEntry : ((buyPatch row cost price).apply row).entryPrice =
      (row.entryPrice * row.alloc + price * cost) / (max 0 row.alloc + cost) :=
    if_pos ⟨costly, priced, bought⟩
  rw [isAlloc, isEntry, max_eq_right costly.le]
  have both : row.alloc + cost ≠ 0 := (add_pos costly bought).ne'
  refine ⟨rfl, ?_⟩
  field_simp

theorem lotQuantity_bought {id : ℕ} (counted : row.Counted)
    (others : ∀ stored ∈ rest, stored.row.Counted) (bought : 0 < cost) (priced : 0 < price) :
    lotQuantity (mergedLot (⟨id, (buyPatch row cost price).apply row⟩ :: rest)) =
      totalCost Prod.fst (purchases cost price (⟨id, row⟩ :: rest)) /
        meanPrice Prod.fst Prod.snd (purchases cost price (⟨id, row⟩ :: rest)) := by
  obtain ⟨isAlloc, isEntry⟩ := @apply_buyPatch _ _ price counted bought
  set updated := (buyPatch row cost price).apply row with updatedIs
  have positive : 0 < row.alloc + cost := add_pos counted.1 bought
  have isCounted : updated.Counted := by
    refine ⟨by rw [isAlloc]; exact positive, ?_⟩
    have weight : 0 < row.entryPrice * row.alloc + price * cost :=
      add_pos (mul_pos counted.2 counted.1) (mul_pos priced bought)
    rw [← isEntry] at weight
    exact (pos_iff_pos_of_mul_pos weight).mpr positive
  have same := countedRows_eq (List.forall_mem_cons.mpr ⟨isCounted, others⟩ :
    ∀ stored ∈ (⟨id, updated⟩ :: rest : List (Stored Trade)), stored.row.Counted)
  rw [lotQuantity_mergedLot (by rw [same]; exact List.cons_ne_nil _ _), same]
  simp only [meanPrice, totalCost, purchases, List.map_cons, List.map_map, List.sum_cons]
  rw [isAlloc, isEntry]
  have costs : row.alloc + cost + (rest.map fun stored => stored.row.alloc).sum =
      cost + (row.alloc + (rest.map fun stored => stored.row.alloc).sum) := by ring
  have weights : row.entryPrice * row.alloc + price * cost +
      (rest.map fun stored => stored.row.entryPrice * stored.row.alloc).sum = price * cost +
        (row.entryPrice * row.alloc +
          (rest.map fun stored => stored.row.entryPrice * stored.row.alloc).sum) := by ring
  rw [costs, weights]
  rfl

theorem lotQuantity_bought_iff {id : ℕ} (counted : row.Counted)
    (others : ∀ stored ∈ rest, stored.row.Counted) (bought : 0 < cost) (priced : 0 < price) :
    lotQuantity (mergedLot (⟨id, (buyPatch row cost price).apply row⟩ :: rest)) =
        lotQuantity (⟨id, row⟩ :: rest) + cost / price ↔
      ∀ stored ∈ (⟨id, row⟩ :: rest : List (Stored Trade)), stored.row.entryPrice = price := by
  have allCounted : ∀ stored ∈ (⟨id, row⟩ :: rest : List (Stored Trade)), stored.row.Counted :=
    List.forall_mem_cons.mpr ⟨counted, others⟩
  rw [lotQuantity_bought counted others bought priced, add_comm, ← totalQuantity_purchases allCounted,
    ← onePrice_purchases_iff]
  refine totalCost_div_meanPrice_eq_iff ?_ ?_ (List.cons_ne_nil _ _)
  · refine List.forall_mem_cons.mpr ⟨bought, fun purchase member => ?_⟩
    obtain ⟨stored, inLot, rfl⟩ := List.mem_map.mp member
    exact (allCounted stored inLot).1
  · refine List.forall_mem_cons.mpr ⟨priced, fun purchase member => ?_⟩
    obtain ⟨stored, inLot, rfl⟩ := List.mem_map.mp member
    exact (allCounted stored inLot).2

end Buying

section Booking

variable {fates : (op : Op) → Fate op} (answering : Answering fates) {desk : Desk}
  {pair : String}
include answering

theorem exec_tryMerge (desk : Desk) : ∃ reached count,
    tryMerge.exec fates desk = (reached, .ok count) ∧
      ∀ pair, openRowsOf pair reached.trades = mergedLot (openRowsOf pair desk.trades) := by
  obtain ⟨reached, count, ran, merged⟩ := exec_merge answering desk
  refine ⟨reached, count, ?_, merged⟩
  unfold tryMerge
  rw [exec_recover, ran]

theorem exec_findOpenTrade (pair : String) (desk : Desk) :
    (await (.findOpenTrade pair)).exec fates desk =
      (desk, .ok (openRowsOf pair desk.trades).head?) := by
  refine (exec_perform _ _).trans ?_
  simp only [perform, answering.findOne]
  rfl

theorem openRowsOf_bookBuy {existing : Stored Trade} {rest : List (Stored Trade)}
    (isLot : openRowsOf pair desk.trades = existing :: rest) (swap : Swap) (price : ℚ) :
    openRowsOf pair ((bookBuy pair swap price).exec fates desk).1.trades = mergedLot
      (⟨existing.id, (buyPatch existing.row swap.alloc price).apply existing.row⟩ :: rest) := by
  obtain ⟨found, _, isOpen⟩ := mem_openRowsOf.mp (isLot ▸ List.mem_cons_self :
    existing ∈ openRowsOf pair desk.trades)
  have looked := exec_findOpenTrade answering pair desk
  rw [isLot, List.head?_cons] at looked
  have updated := exec_updateTrade answering found (buyPatch existing.row swap.alloc price)
  obtain ⟨reached, count, ran, merged⟩ := exec_tryMerge answering (desk.store
    (desk.trades.set existing.id ((buyPatch existing.row swap.alloc price).apply existing.row)))
  have booked : ((bookBuy pair swap price).exec fates desk).1 = reached := by
    unfold bookBuy
    rw [exec_bind_ok looked]
    rw [exec_bind_ok updated, exec_bind_ok ran]
    rfl
  rw [booked, merged]
  exact congrArg mergedLot (openRowsOf_set_head isLot isOpen)

end Booking

/-! ### The position -/

def AllCounted (desk : Desk) : Prop := ∀ stored ∈ openRows desk.trades, stored.row.Counted

instance (desk : Desk) : Decidable (AllCounted desk) := by
  unfold AllCounted
  infer_instance

def afterMerge (fates : (op : Op) → Fate op) (desk : Desk) : Desk :=
  (mergeDuplicateJupiterOpenTrades.exec fates desk).1

/-- A merge keeps the cost, the quantity and the skims of every pair, leaves one OPEN row of each,
and changes nothing a second time. -/
structure MergePreserves (fates : (op : Op) → Fate op) (desk : Desk) : Prop where
  cost : ∀ pair, openCost pair (afterMerge fates desk).trades = openCost pair desk.trades
  quantity : ∀ pair, lotQuantity (openRowsOf pair (afterMerge fates desk).trades) =
    lotQuantity (openRowsOf pair desk.trades)
  banked : ∀ pair, lotBanked (openRowsOf pair (afterMerge fates desk).trades) =
    lotBanked (openRowsOf pair desk.trades)
  single : ∀ pair, (openRowsOf pair (afterMerge fates desk).trades).length =
    min 1 (openRowsOf pair desk.trades).length
  again : afterMerge fates (afterMerge fates desk) = afterMerge fates desk

def BuyAdds (fates : (op : Op) → Fate op) (desk : Desk) (pair : String) (swap : Swap)
    (price : ℚ) : Prop :=
  lotQuantity (openRowsOf pair ((bookBuy pair swap price).exec fates desk).1.trades) =
    lotQuantity (openRowsOf pair desk.trades) + swap.alloc / price

/-- The OPEN rows of each pair have one entry price, and their skims add up. -/
def Uniform (desk : Desk) : Prop :=
  ∀ pair, OnePrice (fun stored : Stored Trade => stored.row.entryPrice)
    (openRowsOf pair desk.trades) ∧ SkimsAdd (openRowsOf pair desk.trades)

theorem AllCounted.openRowsOf {desk : Desk} (counted : AllCounted desk) (pair : String) :
    ∀ stored ∈ openRowsOf pair desk.trades, stored.row.Counted := by
  intro stored member
  obtain ⟨found, _, isOpen⟩ := mem_openRowsOf.mp member
  exact counted stored (mem_openRows.mpr ⟨found, isOpen⟩)

/-- Merging keeps the position if and only if there is nothing to average. -/
theorem mergePreserves_iff_uniform {fates : (op : Op) → Fate op} (answering : Answering fates)
    {desk : Desk} (counted : AllCounted desk) : MergePreserves fates desk ↔ Uniform desk := by
  obtain ⟨reached, count, ran, merged⟩ := exec_merge answering desk
  have isAfter : afterMerge fates desk = reached := congrArg Prod.fst ran
  constructor
  · intro preserves pair
    refine ⟨(quantity_mergedLot_iff (counted.openRowsOf pair)).mp ?_,
      banked_mergedLot_iff.mp ?_⟩
    · rw [← merged, ← isAfter]
      exact preserves.quantity pair
    · rw [← merged, ← isAfter]
      exact preserves.banked pair
  · intro uniform
    rw [← isAfter] at merged
    refine ⟨fun pair => ?_, fun pair => ?_, fun pair => ?_, fun pair => ?_, ?_⟩
    · rw [openCost_eq_openRowsOf, openCost_eq_openRowsOf, merged]
      exact cost_mergedLot fun stored member => Or.inl (counted.openRowsOf pair stored member)
    · rw [merged]
      exact (quantity_mergedLot_iff (counted.openRowsOf pair)).mpr (uniform pair).1
    · rw [merged]
      exact banked_mergedLot_iff.mpr (uniform pair).2
    · rw [merged]
      exact length_mergedLot _
    · refine exec_merge_single answering fun pair => ?_
      rw [merged, length_mergedLot]
      exact min_le_left _ _

/-- A merge and a buy keep the quantities if and only if they average equal prices. -/
theorem position_preserved_iff {fates : (op : Op) → Fate op} (answering : Answering fates)
    (desk : Desk) (counted : AllCounted desk) (pair : String) (swap : Swap) (price : ℚ)
    (existing : openRowsOf pair desk.trades ≠ []) (bought : 0 < swap.alloc) (priced : 0 < price) :
    MergePreserves fates desk ∧ BuyAdds fates desk pair swap price ↔
      Uniform desk ∧ ∀ stored ∈ openRowsOf pair desk.trades, stored.row.entryPrice = price := by
  refine and_congr (mergePreserves_iff_uniform answering counted) ?_
  obtain ⟨first, rest, isLot⟩ := List.exists_cons_of_ne_nil existing
  have lotCounted := counted.openRowsOf pair
  rw [isLot] at lotCounted
  unfold BuyAdds
  rw [openRowsOf_bookBuy answering isLot, isLot]
  exact lotQuantity_bought_iff (lotCounted first List.mem_cons_self)
    (fun stored member => lotCounted stored (List.mem_cons_of_mem _ member)) bought priced

theorem answering_market (held quote : ℚ) (outAmount : ℕ) :
    Answering (market held quote outAmount) :=
  ⟨rfl, fun _ => rfl, rfl, rfl, fun _ _ => rfl, fun _ => rfl⟩

/-- A buy of a hundred tokens for a hundred USDC. -/
def wifBought : Swap :=
  ⟨.buy, false, "EPjFWdd5AufqSSqeM2qN1xzybapC8G4wEGGkZwyTDt1v", 100, 100, 100⟩

/-- Two lots bought at a dollar keep their quantity, and so does a third. -/
theorem position_preserved_wif :
    MergePreserves (market 0 1 0) ⟨List.replicate 2 wifRow, fun _ => none⟩ ∧
      BuyAdds (market 0 1 0) ⟨List.replicate 2 wifRow, fun _ => none⟩ "WIF/USDT" wifBought 1 := by
  have isWif : ∀ pair, ∀ stored ∈ openRowsOf pair (List.replicate 2 wifRow),
      stored.row = wifRow := fun pair stored member =>
    List.eq_of_mem_replicate (List.mem_of_getElem? (mem_openRowsOf.mp member).1)
  refine (position_preserved_iff (answering_market 0 1 0) _ (by decide +kernel) "WIF/USDT" wifBought 1
    (by decide +kernel) (by decide +kernel) one_pos).mpr ⟨fun pair => ⟨?_, Or.inl ?_⟩, ?_⟩
  · intro first isFirst second isSecond
    dsimp only
    rw [isWif pair first isFirst, isWif pair second isSecond]
  · intro stored member
    rw [isWif pair stored member]
    exact le_rfl
  · intro stored member
    rw [isWif _ stored member]
    rfl

/-- The merge of a lot bought at one dollar with one bought at three dollars loses a quarter of
the tokens. -/
theorem not_position_preserved :
    ¬ ∀ (fates : (op : Op) → Fate op) (desk : Desk) (pair : String) (swap : Swap) (price : ℚ),
      Answering fates → AllCounted desk → openRowsOf pair desk.trades ≠ [] → 0 < swap.alloc →
        0 < price → MergePreserves fates desk ∧ BuyAdds fates desk pair swap price := by
  intro always
  have preserves := (always (market 0 1 0)
    ⟨[wifRow, { wifRow with entryPrice := 3 }], fun _ => none⟩ "WIF/USDT" wifBought 1
    (answering_market 0 1 0) (by decide +kernel) (by decide +kernel) (by decide +kernel)
    one_pos).1
  have lost : lotQuantity (openRowsOf "WIF/USDT" (afterMerge (market 0 1 0)
      ⟨[wifRow, { wifRow with entryPrice := 3 }], fun _ => none⟩).trades) ≠
      lotQuantity (openRowsOf "WIF/USDT" [wifRow, { wifRow with entryPrice := 3 }]) := by
    decide +kernel
  exact lost (preserves.quantity "WIF/USDT")

end GdslExchange.Jupiter
