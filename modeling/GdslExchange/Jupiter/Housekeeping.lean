/-
This file models the housekeeping of the trade book: the correction of rows
that a burst of duplicate submits has inflated, and the reconciliation of the
OPEN rows with the wallet. Together with the merge it runs at any time, in any
order.

Where the wallet holds what the rows stand for, no pass has anything to
correct. The passes leave the cost and the profit on the OPEN rows alone as long
as no CANCELLED row makes an OPEN one look inflated, every row that is merged
counts, and no lot is dust.

A row's creation time never changes, so it is a parameter of the calls.
-/

import GdslExchange.Jupiter.Merging
import Mathlib.Algebra.Order.Group.Unbundled.Abs
import Mathlib.Data.List.SplitBy

namespace GdslExchange.Jupiter

open Async Async.Program
open Numeric

/-! ### Bursts -/

def burstDedupeMs : ℕ := 3 * 60000

/-- A row belongs to the burst of the row before it. -/
def continuesBurst (createdAt : ℕ → ℕ) (previous next : Stored Trade) : Bool :=
  next.row.pair = previous.row.pair ∧ createdAt next.id - createdAt previous.id ≤ burstDedupeMs

def bursts (createdAt : ℕ → ℕ) (trades : List (Stored Trade)) : List (List (Stored Trade)) :=
  trades.splitBy (continuesBurst createdAt)

/-- `unit`: the smallest allocation of more than half a dollar among the CANCELLED rows. -/
def burstUnit (burst : List (Stored Trade)) : ℚ :=
  let cancelled := burst.filter fun stored => stored.row.status = .cancelled
  let unitAllocs := (cancelled.map fun stored => stored.row.alloc).filter fun alloc => alloc > 1 / 2
  unitAllocs.min?.getD 0

/-- `primary`: the first row that is OPEN, or CLOSED with an exit price. -/
def burstPrimary (burst : List (Stored Trade)) : Option (Stored Trade) :=
  burst.find? fun stored =>
    stored.row.status = .open ∨ stored.row.status = .closed ∧ stored.row.exitPrice.isSome

/-- An allocation looks like several units that were submitted once. -/
def Inflated (unit alloc : ℚ) : Prop :=
  unit > 0 ∧ alloc ≥ unit * (3 / 2) ∧ Numeric.round (alloc / unit) ≥ 2 ∧
    |alloc - unit * Numeric.round (alloc / unit)| / max alloc 1 < 1 / 10

instance (unit alloc : ℚ) : Decidable (Inflated unit alloc) := by
  unfold Inflated
  infer_instance

/-- A row is cut to a unit, and its profit in proportion. -/
def cutPatch (primary : Trade) (unit : ℚ) : TradePatch where
  allocationUsd := some (some unit)
  pnl := primary.pnl.map fun oldPnl => roundTo 8 (oldPnl * (unit / primary.alloc))

/-- The correction of a burst: the row and its update. -/
def burstFix? (burst : List (Stored Trade)) : Option (ℕ × TradePatch) := do
  guard (burst.length ≥ 2 ∧ ∃ stored ∈ burst, stored.row.status = .cancelled)
  let primary ← burstPrimary burst
  guard (Inflated (burstUnit burst) primary.row.alloc)
  pure (primary.id, cutPatch primary.row (burstUnit burst))

/-- The corrections of a book. -/
def burstFixes (createdAt : ℕ → ℕ) (trades : List (Stored Trade)) : List (ℕ × TradePatch) :=
  if trades.length < 2 then [] else (bursts createdAt trades).filterMap burstFix?

def correct (fix : ℕ × TradePatch) : Call Unit := do
  let _ ← await (.updateTrade fix.1 fix.2)
  pure ()

def reconcileInflatedJupiterBurstTrades (createdAt : ℕ → ℕ) : Call ℕ := do
  await .ensureJupiterStrategyId
  let trades ← await .findTrades
  forEach correct (burstFixes createdAt trades)
  pure (burstFixes createdAt trades).length

/-! ### Stale lots -/

def reconcileGraceMs : ℕ := 5 * 60000

/-- `pair.replace(/\/USDT$/i, '').toUpperCase()`. -/
def pairBase (pair : String) : String :=
  let upper := pair.toUpper
  if upper.endsWith "/USDT" then (upper.dropEnd 5).toString else upper

/-- The OPEN rows by base symbol, in the order of first occurrence. -/
def byBase (opens : List (Stored Trade)) : List (String × List (Stored Trade)) :=
  ((opens.map fun stored => pairBase stored.row.pair).eraseDups.filter fun base =>
    base ≠ "").map fun base => (base, opens.filter fun stored => pairBase stored.row.pair = base)

def youngestAt (createdAt : ℕ → ℕ) (lot : List (Stored Trade)) : ℕ :=
  (lot.map fun stored => createdAt stored.id).foldr max 0

/-- `balByMint.get(mint) ?? 0`. -/
def heldOf (holdings : List SolanaHolding) (mint : String) : ℚ :=
  ((holdings.reverse.find? fun holding => holding.mint = mint).map SolanaHolding.amount).getD 0

/-- The wallet is read once more for lots that just aged out of the grace window. -/
def readWallet (token : Token) (listed lotQty : ℚ) (age : ℕ) : Call ℚ :=
  if listed < lotQty * (5 / 100) ∧ age < reconcileGraceMs + 90000 then do
    await (.sleep 2000)
    recover (await (.getSolanaTokenBalance token.mint token.decimals)) fun _ => pure listed
  else pure listed

/-- `avgEntry`. -/
def averageEntry (lot : List (Stored Trade)) : ℚ :=
  if totalAlloc lot > 0 ∧ weightedEntry lot > 0 then weightedEntry lot / totalAlloc lot
  else if lotQuantity lot > 0 then totalAlloc lot / lotQuantity lot else 0

/-- The rows to cancel, and the number of lots that were downscaled. -/
structure Review where
  toCancel : List ℕ
  downscaled : ℕ

def Review.none : Review := ⟨[], 0⟩

def Review.add (first second : Review) : Review :=
  ⟨first.toCancel ++ second.toCancel, first.downscaled + second.downscaled⟩

/-- The first row of an over-booked lot takes the wallet's cost, and the others are cancelled. -/
def downscaleLot (newAlloc : ℚ) : List (Stored Trade) → Call Review
  | [] => pure Review.none
  | primary :: extras => do
    let _ ← await (.updateTrade primary.id { allocationUsd := some (some newAlloc) })
    if extras.isEmpty then pure ⟨[], 1⟩
    else do
      await (.cancelOpenTrades (extras.map Stored.id))
      pure ⟨[], 1⟩

/-- A lot that the wallet no longer holds is cancelled, and one that it holds in part is
downscaled. -/
def weighLot (lot : List (Stored Trade)) (walletQty : ℚ) : Call Review :=
  let newAlloc := roundTo 8 (walletQty * averageEntry lot)
  if walletQty < lotQuantity lot * (5 / 100) then pure ⟨lot.map Stored.id, 0⟩
  else if averageEntry lot > 0 ∧ walletQty > 0 ∧ walletQty < lotQuantity lot * (85 / 100) ∧
      totalAlloc lot > 1 / 2 ∧ newAlloc > 1 / 2 ∧ newAlloc + 1 / 100 < totalAlloc lot then
    downscaleLot newAlloc lot
  else pure Review.none

/-- A lot of at most this quantity is dust. -/
def dustQuantity : ℚ := 1 / 10 ^ 10

def reviewBase (createdAt : ℕ → ℕ) (holdings : List SolanaHolding) (now : ℕ)
    (group : String × List (Stored Trade)) : Call Review :=
  let age := now - youngestAt createdAt group.2
  if lotQuantity group.2 ≤ dustQuantity then pure ⟨group.2.map Stored.id, 0⟩
  else if age < reconcileGraceMs then pure Review.none
  else do
    let token? ← await (.getJupiterTradableToken (group.1 ++ "USDT"))
    match token? with
    | none => pure Review.none
    | some token => do
      let walletQty ← readWallet token (heldOf holdings token.mint) (lotQuantity group.2) age
      weighLot group.2 walletQty

def reviewBases (createdAt : ℕ → ℕ) (holdings : List SolanaHolding) (now : ℕ) :
    List (String × List (Stored Trade)) → Call Review
  | [] => pure Review.none
  | group :: rest => do
    let first ← reviewBase createdAt holdings now group
    let later ← reviewBases createdAt holdings now rest
    pure (first.add later)

def cancelStale (toCancel : List ℕ) : Call Unit :=
  if toCancel.isEmpty then pure () else await (.cancelOpenTrades toCancel)

/-- The OPEN rows are weighed against the holdings. -/
def reviewOpens (createdAt : ℕ → ℕ) (burstFixed : ℕ) (opens : List (Stored Trade)) :
    Call ℕ := do
  let holdings? ← recover (do
    let holdings ← await .listSolanaHoldings
    pure (some holdings)) fun _ => pure none
  match holdings? with
  | none => pure 0
  | some holdings => do
    let now ← await .currentTime
    let review ← reviewBases createdAt holdings now (byBase opens)
    cancelStale review.toCancel
    pure (burstFixed + review.toCancel.length + review.downscaled)

def reconcileStaleJupiterOpenTrades (settings : Settings) (createdAt : ℕ → ℕ) : Call ℕ :=
  if !settings.solanaWalletEnabled ∨ !settings.jupiterConfigured then pure 0
  else do
    let burstFixed ← recover (reconcileInflatedJupiterBurstTrades createdAt) fun _ => pure 0
    let _ ← tryMerge
    await .ensureJupiterStrategyId
    let opens ← await .findOpenTrades
    if opens.isEmpty then pure 0
    else reviewOpens createdAt burstFixed opens

/-! ### What a pass keeps -/

/-- The OPEN rows of each pair carry the same cost and the same profit as before, and stand for
no more than before. -/
structure KeepsPositions (before later : List Trade) : Prop where
  cost : ∀ pair, openCost pair later = openCost pair before
  banked : ∀ pair, lotBanked (openRowsOf pair later) = lotBanked (openRowsOf pair before)
  quantity : ∀ pair, lotQuantity (openRowsOf pair later) ≤ lotQuantity (openRowsOf pair before)
  empty : ∀ pair, openRowsOf pair before = [] → openRowsOf pair later = []

section Keeping

variable {before later : List Trade}

theorem KeepsPositions.refl (trades : List Trade) : KeepsPositions trades trades :=
  ⟨fun _ => rfl, fun _ => rfl, fun _ => le_rfl, fun _ => id⟩

theorem KeepsPositions.trans {last : List Trade} (first : KeepsPositions before later)
    (second : KeepsPositions later last) : KeepsPositions before last where
  cost pair := (second.cost pair).trans (first.cost pair)
  banked pair := (second.banked pair).trans (first.banked pair)
  quantity pair := (second.quantity pair).trans (first.quantity pair)
  empty pair none := second.empty pair (first.empty pair none)

theorem keepsPositions_of_same
    (same : ∀ pair, openRowsOf pair later = openRowsOf pair before) :
    KeepsPositions before later where
  cost pair := by rw [openCost_eq_openRowsOf, openCost_eq_openRowsOf, same]
  banked pair := by rw [same]
  quantity pair := by rw [same]
  empty pair none := by rw [same, none]

/-- Of each pair, at most one row is OPEN, or every row that is merged counts or costs nothing and
the skims add up. -/
def MergesHarmless (trades : List Trade) : Prop :=
  ∀ pair, (openRowsOf pair trades).length ≤ 1 ∨
    (∀ stored ∈ openRowsOf pair trades, stored.row.Counted ∨ stored.row.alloc = 0) ∧
      SkimsAdd (openRowsOf pair trades)

theorem keepsPositions_of_merged (harmless : MergesHarmless before)
    (merged : ∀ pair, openRowsOf pair later = mergedLot (openRowsOf pair before)) :
    KeepsPositions before later where
  cost pair := by
    rw [openCost_eq_openRowsOf, openCost_eq_openRowsOf, merged]
    rcases harmless pair with short | ⟨counted, _⟩
    · rw [mergedLot_short short]
    · exact cost_mergedLot counted
  banked pair := by
    rw [merged]
    rcases harmless pair with short | ⟨_, add⟩
    · rw [mergedLot_short short]
    · exact banked_mergedLot_iff.mpr add
  quantity pair := by
    rw [merged]
    exact quantity_mergedLot_le _
  empty pair none := by
    rw [merged, none]
    rfl

theorem openRowsOf_cancelWhere (pair : String) (predicate : Stored Trade → Bool)
    (trades : List Trade) : openRowsOf pair (cancelWhere predicate trades) =
      (openRowsOf pair trades).filter fun stored => !predicate stored := by
  refine openRowsOf_eq ((openRowsOf_sorted pair trades).filter _) fun stored => ?_
  rw [List.mem_filter, mem_openRowsOf, mem_openRowsOf, getElem?_cancelWhere, Bool.not_eq_true']
  constructor
  · rintro ⟨isStored, isPair, isOpen⟩
    obtain ⟨row, found, isRow⟩ := Option.map_eq_some_iff.mp isStored
    split_ifs at isRow with cancelled
    · rw [← isRow] at isOpen
      cases isOpen
    · subst isRow
      exact ⟨⟨found, isPair, isOpen⟩, eq_false_of_ne_true cancelled⟩
  · rintro ⟨⟨found, isPair, isOpen⟩, kept⟩
    refine ⟨?_, isPair, isOpen⟩
    rw [found]
    exact congrArg some (if_neg (by rw [kept]; exact Bool.false_ne_true))

/-- Rows that stand for nothing may be left out of a sum. -/
theorem sum_filter_of_idle {lot : List (Stored Trade)} {kept : Stored Trade → Bool}
    {amount : Stored Trade → ℚ} (idle : ∀ stored ∈ lot, kept stored = false → amount stored = 0) :
    ((lot.filter kept).map amount).sum = (lot.map amount).sum := by
  induction lot with
  | nil => rfl
  | cons stored rest inductionHypothesis =>
    have tail := inductionHypothesis fun other member => idle other (List.mem_cons_of_mem _ member)
    cases isKept : kept stored with
    | true => rw [List.filter_cons_of_pos isKept, List.map_cons, List.map_cons, List.sum_cons,
        List.sum_cons, tail]
    | false =>
      rw [List.filter_cons_of_neg (by rw [isKept]; exact Bool.false_ne_true), List.map_cons,
        List.sum_cons, idle stored List.mem_cons_self isKept, zero_add, tail]

/-- A row that stands for nothing. -/
def Trade.Idle (trade : Trade) : Prop := trade.alloc = 0 ∧ trade.banked = 0

theorem keepsPositions_of_idle {predicate : Stored Trade → Bool}
    (idle : ∀ stored ∈ openRows before, predicate stored → stored.row.Idle) :
    KeepsPositions before (cancelWhere predicate before) := by
  have isIdle : ∀ pair, ∀ stored ∈ openRowsOf pair before, (!predicate stored) = false →
      stored.row.Idle := by
    intro pair stored member cancelled
    obtain ⟨found, _, isOpen⟩ := mem_openRowsOf.mp member
    exact idle stored (mem_openRows.mpr ⟨found, isOpen⟩) (by simpa using cancelled)
  refine ⟨fun pair => ?_, fun pair => ?_, fun pair => ?_, fun pair none => ?_⟩
  · rw [openCost_eq_openRowsOf, openCost_eq_openRowsOf, openRowsOf_cancelWhere]
    exact sum_filter_of_idle fun stored member cancelled => (isIdle pair stored member cancelled).1
  · rw [openRowsOf_cancelWhere]
    exact sum_filter_of_idle fun stored member cancelled => (isIdle pair stored member cancelled).2
  · rw [openRowsOf_cancelWhere]
    refine (sum_filter_of_idle fun stored member cancelled => if_neg fun counted => ?_).le
    exact absurd (isIdle pair stored member cancelled).1 counted.1.ne'
  · rw [openRowsOf_cancelWhere, none]
    rfl

end Keeping

/-! ### The bursts -/

/-- No OPEN row looks inflated beside the CANCELLED rows of its burst. -/
def BurstsHarmless (createdAt : ℕ → ℕ) (trades : List Trade) : Prop :=
  ∀ fix ∈ burstFixes createdAt (rows trades), ∀ row ∈ trades[fix.1]?, ¬ row.IsOpen

section Bursts

variable {fates : (op : Op) → Fate op} (answering : Answering fates) {createdAt : ℕ → ℕ}

theorem mem_burstFixes {trades : List Trade} {fix : ℕ × TradePatch}
    (member : fix ∈ burstFixes createdAt (rows trades)) :
    (∃ row, trades[fix.1]? = some row) ∧ fix.2.status = none := by
  unfold burstFixes at member
  split at member
  · cases member
  · obtain ⟨burst, isBurst, isFix⟩ := List.mem_filterMap.mp member
    simp only [burstFix?, Option.bind_eq_bind, Option.bind_eq_some_iff, Option.guard_eq_some'] at isFix
    obtain ⟨_, _, primary, isPrimary, _, _, isFix⟩ := isFix
    obtain rfl := Option.some.inj isFix
    refine ⟨⟨primary.row, mem_rows.mp ?_⟩, rfl⟩
    rw [← List.flatten_splitBy (continuesBurst createdAt) (rows trades)]
    exact List.mem_flatten.mpr ⟨burst, isBurst, List.mem_of_find?_eq_some isPrimary⟩

theorem openRowsOf_set_closed {trades : List Trade} {pair : String} {id : ℕ} {row : Trade}
    (found : trades[id]? = some row) {patch : TradePatch} (unset : patch.status = none)
    (closed : ¬ row.IsOpen) :
    openRowsOf pair (trades.set id (patch.apply row)) = openRowsOf pair trades := by
  have stillClosed : ¬ (patch.apply row).IsOpen := by
    unfold Trade.IsOpen TradePatch.apply
    rw [unset]
    exact closed
  refine openRowsOf_congr fun position current isPair isOpen => ?_
  rcases eq_or_ne id position with rfl | elsewhere
  · rw [List.getElem?_set_self (List.getElem?_eq_some_iff.mp found).1, found,
      Option.some.injEq, Option.some.injEq]
    constructor
    · rintro rfl
      exact absurd isOpen stillClosed
    · rintro rfl
      exact absurd isOpen closed
  · rw [List.getElem?_set_ne elsewhere]

include answering

theorem exec_corrections {fixes : List (ℕ × TradePatch)} (desk : Desk)
    (closed : ∀ fix ∈ fixes, fix.2.status = none ∧
      ∃ row, desk.trades[fix.1]? = some row ∧ ¬ row.IsOpen) :
    ∃ reached, (forEach correct fixes).exec fates desk = (reached, .ok ()) ∧
      ∀ pair, openRowsOf pair reached.trades = openRowsOf pair desk.trades := by
  induction fixes generalizing desk with
  | nil => exact ⟨desk, rfl, fun _ => rfl⟩
  | cons fix rest inductionHypothesis =>
    obtain ⟨unset, row, found, isClosed⟩ := closed fix List.mem_cons_self
    have updated := exec_updateTrade answering found fix.2
    have corrected : (correct fix).exec fates desk =
        (desk.store (desk.trades.set fix.1 (fix.2.apply row)), .ok ()) := exec_bind_ok updated
    have stillClosed : ∀ other ∈ rest, other.2.status = none ∧ ∃ current,
        (desk.trades.set fix.1 (fix.2.apply row))[other.1]? = some current ∧
          ¬ current.IsOpen := by
      intro other member
      obtain ⟨otherUnset, current, isCurrent, currentClosed⟩ :=
        closed other (List.mem_cons_of_mem _ member)
      refine ⟨otherUnset, ?_⟩
      rcases eq_or_ne fix.1 other.1 with sameRow | elsewhere
      · refine ⟨fix.2.apply row, ?_, ?_⟩
        · rw [← sameRow]
          exact List.getElem?_set_self (List.getElem?_eq_some_iff.mp found).1
        · unfold Trade.IsOpen TradePatch.apply
          rw [unset]
          exact isClosed
      · exact ⟨current, (List.getElem?_set_ne elsewhere).trans isCurrent, currentClosed⟩
    obtain ⟨reached, ran, same⟩ := inductionHypothesis
      (desk.store (desk.trades.set fix.1 (fix.2.apply row))) stillClosed
    refine ⟨reached, (exec_bind_ok corrected).trans ran, fun pair => ?_⟩
    rw [same]
    exact openRowsOf_set_closed found unset isClosed

theorem exec_bursts {desk : Desk} (harmless : BurstsHarmless createdAt desk.trades) :
    ∃ reached count,
      (reconcileInflatedJupiterBurstTrades createdAt).exec fates desk = (reached, .ok count) ∧
        ∀ pair, openRowsOf pair reached.trades = openRowsOf pair desk.trades := by
  have read : (await .findTrades).exec fates desk = (desk, .ok (rows desk.trades)) := by
    refine (exec_perform _ _).trans ?_
    simp only [perform, answering.findEvery]
    rfl
  obtain ⟨reached, ran, same⟩ := exec_corrections answering desk fun fix member => by
    obtain ⟨⟨row, found⟩, unset⟩ := mem_burstFixes member
    exact ⟨unset, row, found, harmless fix member row found⟩
  refine ⟨reached, (burstFixes createdAt (rows desk.trades)).length, ?_, same⟩
  unfold reconcileInflatedJupiterBurstTrades
  rw [exec_bind_ok (exec_ensureJupiterStrategyId answering desk), exec_bind_ok read,
    exec_bind_ok ran]
  rfl

end Bursts

/-! ### The wallet -/

/-- What a pass is told of the wallet is at least what it holds for each pair. -/
structure ShowsWallet (wallet : String → ℚ) (fates : (op : Op) → Fate op) : Prop where
  listed : ∀ base token holdings,
    fates (.getJupiterTradableToken (base ++ "USDT")) = Except.ok (some token) →
      fates .listSolanaHoldings = Except.ok holdings →
        wallet (pairOf base) ≤ heldOf holdings token.mint
  read : ∀ base token held,
    fates (.getJupiterTradableToken (base ++ "USDT")) = Except.ok (some token) →
      fates (.getSolanaTokenBalance token.mint token.decimals) = Except.ok held →
        wallet (pairOf base) ≤ held

/-- The pairs of the OPEN rows are written as the swap writes them. -/
def Canonical (trades : List Trade) : Prop :=
  ∀ stored ∈ openRows trades, pairOf (pairBase stored.row.pair) = stored.row.pair

/-- The wallet holds what the OPEN rows stand for. -/
def Covered (wallet : String → ℚ) (trades : List Trade) : Prop :=
  ∀ pair, lotQuantity (openRowsOf pair trades) ≤ wallet pair

theorem KeepsPositions.canonical {before later : List Trade} (kept : KeepsPositions before later)
    (canonical : Canonical before) : Canonical later := by
  intro stored member
  obtain ⟨found, isOpen⟩ := mem_openRows.mp member
  have nonempty : openRowsOf stored.row.pair before ≠ [] := by
    intro none
    have present := mem_openRowsOf.mpr ⟨found, rfl, isOpen⟩
    rw [kept.empty _ none] at present
    cases present
  obtain ⟨earlier, inBefore⟩ := List.exists_mem_of_ne_nil _ nonempty
  obtain ⟨wasFound, samePair, wasOpen⟩ := mem_openRowsOf.mp inBefore
  rw [← samePair]
  exact canonical earlier (mem_openRows.mpr ⟨wasFound, wasOpen⟩)

section Wallet

variable {wallet : String → ℚ} {fates : (op : Op) → Fate op} {createdAt : ℕ → ℕ}
  {trades : List Trade}

theorem eq_openRowsOf_of_mem_byBase (canonical : Canonical trades)
    {group : String × List (Stored Trade)} (isGroup : group ∈ byBase (openRows trades)) :
    group.2 = openRowsOf (pairOf group.1) trades := by
  obtain ⟨base, _, rfl⟩ := List.mem_map.mp isGroup
  rw [← filter_openRows]
  refine List.filter_congr fun stored member => ?_
  have isPair := canonical stored member
  refine decide_eq_decide.mpr ⟨?_, ?_⟩
  · rintro rfl
    exact isPair.symm
  · exact fun ofPair => (String.append_left_inj _).mp (isPair.trans ofPair)

theorem exec_readWallet {token : Token} {listed lotQty : ℚ} {age : ℕ} {bound : ℚ}
    (enough : bound ≤ listed)
    (read : ∀ held, fates (.getSolanaTokenBalance token.mint token.decimals) = Except.ok held →
      bound ≤ held) (desk : Desk) :
    ∃ held, (readWallet token listed lotQty age).exec fates desk = (desk, .ok held) ∧
      bound ≤ held := by
  unfold readWallet
  split
  · have slept : (await (.sleep 2000)).exec fates desk = (desk, .ok ()) := exec_perform _ _
    rw [exec_bind_ok slept, exec_recover]
    have asked : (await (.getSolanaTokenBalance token.mint token.decimals)).exec fates desk =
        (desk, fates (.getSolanaTokenBalance token.mint token.decimals)) := exec_perform _ _
    rw [asked]
    generalize fates (.getSolanaTokenBalance token.mint token.decimals) = answer at read
    cases answer with
    | ok held => exact ⟨held, rfl, read held rfl⟩
    | error message => exact ⟨listed, rfl, enough⟩
  · exact ⟨listed, rfl, enough⟩

theorem weighLot_covered {lot : List (Stored Trade)} {walletQty : ℚ}
    (positive : 0 < lotQuantity lot) (covered : lotQuantity lot ≤ walletQty) :
    weighLot lot walletQty = pure Review.none := by
  have held : ¬ walletQty < lotQuantity lot * (5 / 100) := by linarith
  unfold weighLot
  rw [if_neg held, if_neg fun both => ?_]
  linarith [both.2.2.1]

/-- What a review of lots that the wallet covers does: nothing, and it only lists rows of dust. -/
def ListsDust (trades : List Trade) (review : Review) : Prop :=
  ∀ id ∈ review.toCancel, ∃ pair, lotQuantity (openRowsOf pair trades) ≤ dustQuantity ∧
    id ∈ (openRowsOf pair trades).map Stored.id

variable (shows : ShowsWallet wallet fates) {holdings : List SolanaHolding}
  (listed : fates .listSolanaHoldings = Except.ok holdings) {desk : Desk}
  (canonical : Canonical desk.trades) (covered : Covered wallet desk.trades)
include shows listed canonical covered

theorem exec_reviewBase {now : ℕ} {group : String × List (Stored Trade)}
    (isGroup : group ∈ byBase (openRows desk.trades)) :
    ∃ result, (reviewBase createdAt holdings now group).exec fates desk = (desk, result) ∧
      ∀ review, result = .ok review → ListsDust desk.trades review := by
  have isLot := eq_openRowsOf_of_mem_byBase canonical isGroup
  have nothing : ListsDust desk.trades Review.none := fun _ impossible => by cases impossible
  unfold reviewBase
  dsimp only
  split
  · next dust =>
    refine ⟨_, rfl, ?_⟩
    rintro review ⟨⟩ id member
    rw [isLot] at dust member
    exact ⟨pairOf group.1, dust, member⟩
  · next notDust =>
    split
    · exact ⟨_, rfl, by rintro review ⟨⟩; exact nothing⟩
    · have asked : (await (.getJupiterTradableToken (group.1 ++ "USDT"))).exec fates desk =
          (desk, fates (.getJupiterTradableToken (group.1 ++ "USDT"))) := exec_perform _ _
      have isListed := shows.listed group.1
      have isRead := shows.read group.1
      generalize fates (.getJupiterTradableToken (group.1 ++ "USDT")) = answer
        at asked isListed isRead
      cases answer with
      | error message => exact ⟨_, exec_bind_error asked, nofun⟩
      | ok token? =>
        cases token? with
        | none =>
          refine ⟨_, exec_bind_ok asked, ?_⟩
          rintro review ⟨⟩
          exact nothing
        | some token =>
          obtain ⟨held, read, enough⟩ := exec_readWallet
            (isListed token holdings rfl listed) (fun held => isRead token held rfl) desk
          have positive : 0 < lotQuantity group.2 :=
            (by unfold dustQuantity; positivity : (0 : ℚ) < dustQuantity).trans (not_le.mp notDust)
          have enoughForLot : lotQuantity group.2 ≤ held := by
            rw [isLot]
            exact (covered _).trans enough
          refine ⟨.ok Review.none, ?_, ?_⟩
          · rw [exec_bind_ok asked]
            rw [exec_bind_ok read, weighLot_covered positive enoughForLot]
            rfl
          · rintro review ⟨⟩
            exact nothing

theorem exec_reviewBases {now : ℕ} {groups : List (String × List (Stored Trade))}
    (areGroups : ∀ group ∈ groups, group ∈ byBase (openRows desk.trades)) :
    ∃ result, (reviewBases createdAt holdings now groups).exec fates desk = (desk, result) ∧
      ∀ review, result = .ok review → ListsDust desk.trades review := by
  induction groups with
  | nil => exact ⟨_, rfl, by rintro review ⟨⟩ _ ⟨⟩⟩
  | cons group rest inductionHypothesis =>
    obtain ⟨first, ranFirst, dustFirst⟩ := @exec_reviewBase _ _ createdAt shows _ listed _ canonical
      covered now _ (areGroups group List.mem_cons_self)
    obtain ⟨later, ranLater, dustLater⟩ := inductionHypothesis fun other member =>
      areGroups other (List.mem_cons_of_mem _ member)
    unfold reviewBases
    cases first with
    | error message => exact ⟨_, exec_bind_error ranFirst, nofun⟩
    | ok review =>
      rw [exec_bind_ok ranFirst]
      cases later with
      | error message => exact ⟨_, exec_bind_error ranLater, nofun⟩
      | ok rest =>
        refine ⟨_, exec_bind_ok ranLater, ?_⟩
        rintro both ⟨⟩ id member
        rcases List.mem_append.mp member with inFirst | inLater
        · exact dustFirst review rfl id inFirst
        · exact dustLater rest rfl id inLater

end Wallet

/-! ### The reconciliation -/

/-- A lot whose rows are dust once they are merged carries nothing. -/
def NoDust (trades : List Trade) : Prop :=
  ∀ pair, lotQuantity (mergedLot (openRowsOf pair trades)) ≤ dustQuantity →
    ∀ stored ∈ mergedLot (openRowsOf pair trades), stored.row.Idle

section Reconciliation

variable {wallet : String → ℚ} {fates : (op : Op) → Fate op} {createdAt : ℕ → ℕ}
  (answering : Answering fates) (shows : ShowsWallet wallet fates) {desk : Desk}
  (canonical : Canonical desk.trades) (covered : Covered wallet desk.trades)
include answering shows canonical covered

theorem keepsPositions_reviewOpens {burstFixed : ℕ}
    (noDust : ∀ holdings, fates .listSolanaHoldings = Except.ok holdings →
      ∀ pair, lotQuantity (openRowsOf pair desk.trades) ≤ dustQuantity →
        ∀ stored ∈ openRowsOf pair desk.trades, stored.row.Idle) :
    KeepsPositions desk.trades
      ((reviewOpens createdAt burstFixed (openRows desk.trades)).exec fates desk).1.trades := by
  have asked : (await .listSolanaHoldings).exec fates desk =
      (desk, fates .listSolanaHoldings) := exec_perform _ _
  unfold reviewOpens
  cases listed : fates .listSolanaHoldings with
  | error message =>
    rw [listed] at asked
    have refused : (recover (do
        let holdings ← await .listSolanaHoldings
        pure (some holdings)) fun _ => pure none : Call _).exec fates desk = (desk, .ok none) := by
      rw [exec_recover, exec_bind_error asked]
      rfl
    rw [exec_bind_ok refused]
    exact KeepsPositions.refl _
  | ok holdings =>
    rw [listed] at asked
    have answered : (recover (do
        let holdings ← await .listSolanaHoldings
        pure (some holdings)) fun _ => pure none : Call _).exec fates desk =
          (desk, .ok (some holdings)) := by
      rw [exec_recover, exec_bind_ok asked]
      rfl
    rw [exec_bind_ok answered]
    have timed : (await .currentTime).exec fates desk = (desk, .ok (fates .currentTime)) :=
      exec_perform _ _
    rw [exec_bind_ok timed]
    obtain ⟨result, ran, dust⟩ := @exec_reviewBases _ _ createdAt shows _ listed _ canonical covered
      (fates .currentTime) (byBase (openRows desk.trades)) fun _ => id
    cases result with
    | error message =>
      rw [exec_bind_error ran]
      exact KeepsPositions.refl _
    | ok review =>
      rw [exec_bind_ok ran]
      unfold cancelStale
      split
      · exact KeepsPositions.refl _
      · rw [exec_bind_ok (exec_cancelOpenTrades answering review.toCancel)]
        have kept : KeepsPositions desk.trades (cancelWhere (fun stored =>
            stored.id ∈ review.toCancel ∧ stored.row.IsOpen) desk.trades) := by
          refine keepsPositions_of_idle fun stored member cancelled => ?_
          obtain ⟨pair, isDust, inLot⟩ := dust review rfl stored.id (of_decide_eq_true cancelled).1
          obtain ⟨read, inOpens, sameId⟩ := List.mem_map.mp inLot
          have sameRow := (mem_openRowsOf.mp inOpens).1
          rw [sameId, (mem_openRows.mp member).1, Option.some.injEq] at sameRow
          rw [sameRow]
          exact noDust holdings listed pair isDust read inOpens
        exact kept

theorem keepsPositions_reconcileStale {settings : Settings}
    (harmless : settings.solanaWalletEnabled → settings.jupiterConfigured →
      BurstsHarmless createdAt desk.trades ∧ MergesHarmless desk.trades ∧
        ∀ holdings, fates .listSolanaHoldings = Except.ok holdings → NoDust desk.trades) :
    KeepsPositions desk.trades
      ((reconcileStaleJupiterOpenTrades settings createdAt).exec fates desk).1.trades := by
  unfold reconcileStaleJupiterOpenTrades
  split
  · exact KeepsPositions.refl _
  · next enabled =>
    simp only [Bool.not_eq_true', not_or, Bool.not_eq_false] at enabled
    obtain ⟨burstsHarmless, mergesHarmless, noDust⟩ := harmless enabled.1 enabled.2
    obtain ⟨corrected, count, ranBursts, sameBursts⟩ := exec_bursts answering burstsHarmless
    have recovered : (recover (reconcileInflatedJupiterBurstTrades createdAt) fun _ =>
        pure 0).exec fates desk = (corrected, .ok count) := by
      rw [exec_recover, ranBursts]
    obtain ⟨merged, cancelled, ranMerge, isMerged⟩ := exec_tryMerge answering corrected
    have kept : KeepsPositions desk.trades merged.trades :=
      keepsPositions_of_merged mergesHarmless fun pair => by rw [isMerged, sameBursts]
    rw [exec_bind_ok recovered, exec_bind_ok ranMerge,
      exec_bind_ok (exec_ensureJupiterStrategyId answering merged),
      exec_bind_ok (exec_findOpenTrades answering merged)]
    split
    · exact kept
    · refine kept.trans (keepsPositions_reviewOpens answering shows ?_ ?_ ?_)
      · exact kept.canonical canonical
      · exact fun pair => (kept.quantity pair).trans (covered pair)
      · intro holdings listed pair isDust
        rw [isMerged, sameBursts] at isDust ⊢
        exact noDust holdings listed pair isDust

end Reconciliation

/-! ### Housekeeping at any time -/

inductive Pass where
  | merge
  | bursts
  | stale
deriving DecidableEq

def Pass.call (settings : Settings) (createdAt : ℕ → ℕ) : Pass → Call ℕ
  | merge => mergeDuplicateJupiterOpenTrades
  | bursts => reconcileInflatedJupiterBurstTrades createdAt
  | stale => reconcileStaleJupiterOpenTrades settings createdAt

/-- A pass, and what it is told. -/
structure Visit where
  pass : Pass
  fates : (op : Op) → Fate op

section Visits

variable (settings : Settings) (createdAt : ℕ → ℕ)

/-- The book after a pass. -/
def Visit.after (desk : Desk) (visit : Visit) : Desk :=
  ((visit.pass.call settings createdAt).exec visit.fates desk).1

/-- The book after some passes. -/
def housekeep (visits : List Visit) (desk : Desk) : Desk :=
  visits.foldl (Visit.after settings createdAt) desk

/-- A pass finds nothing that it would take for a mistake. -/
def Visit.Harmless (visit : Visit) (desk : Desk) : Prop :=
  match visit.pass with
  | .merge => MergesHarmless desk.trades
  | .bursts => BurstsHarmless createdAt desk.trades
  | .stale => settings.solanaWalletEnabled → settings.jupiterConfigured →
      BurstsHarmless createdAt desk.trades ∧ MergesHarmless desk.trades ∧
        ∀ holdings, visit.fates .listSolanaHoldings = Except.ok holdings → NoDust desk.trades

/-- Each pass finds nothing that it would take for a mistake, where it comes. -/
def AllHarmless : List Visit → Desk → Prop
  | [], _ => True
  | visit :: rest, desk => visit.Harmless settings createdAt desk ∧
      AllHarmless rest (visit.after settings createdAt desk)

/-- The OPEN rows of each pair carry the same cost and the same profit. -/
structure PositionsKept (before later : List Trade) : Prop where
  cost : ∀ pair, openCost pair later = openCost pair before
  banked : ∀ pair, lotBanked (openRowsOf pair later) = lotBanked (openRowsOf pair before)

variable {settings createdAt} {wallet : String → ℚ} {desk : Desk}

theorem keepsPositions_visit {visit : Visit} (answering : Answering visit.fates)
    (shows : ShowsWallet wallet visit.fates) (canonical : Canonical desk.trades)
    (covered : Covered wallet desk.trades) (harmless : visit.Harmless settings createdAt desk) :
    KeepsPositions desk.trades (visit.after settings createdAt desk).trades := by
  obtain ⟨pass, fates⟩ := visit
  cases pass with
  | merge =>
    obtain ⟨reached, count, ran, merged⟩ := exec_merge answering desk
    have isAfter : Visit.after settings createdAt desk ⟨.merge, fates⟩ = reached :=
      congrArg Prod.fst ran
    rw [isAfter]
    exact keepsPositions_of_merged harmless merged
  | bursts =>
    obtain ⟨reached, count, ran, same⟩ := exec_bursts answering harmless
    have isAfter : Visit.after settings createdAt desk ⟨.bursts, fates⟩ = reached :=
      congrArg Prod.fst ran
    rw [isAfter]
    exact keepsPositions_of_same same
  | stale => exact keepsPositions_reconcileStale answering shows canonical covered harmless

theorem keepsPositions_housekeep {visits : List Visit}
    (told : ∀ visit ∈ visits, Answering visit.fates ∧ ShowsWallet wallet visit.fates)
    (canonical : Canonical desk.trades) (covered : Covered wallet desk.trades)
    (harmless : AllHarmless settings createdAt visits desk) :
    KeepsPositions desk.trades (housekeep settings createdAt visits desk).trades := by
  induction visits generalizing desk with
  | nil => exact KeepsPositions.refl _
  | cons visit rest inductionHypothesis =>
    obtain ⟨answering, shows⟩ := told visit List.mem_cons_self
    have first := keepsPositions_visit answering shows canonical covered harmless.1
    exact first.trans (inductionHypothesis (fun other member =>
      told other (List.mem_cons_of_mem _ member)) (first.canonical canonical)
      (fun pair => (first.quantity pair).trans (covered pair)) harmless.2)

theorem AllHarmless.initial {visits earlier : List Visit}
    (harmless : AllHarmless settings createdAt visits desk) (isPrefix : earlier <+: visits) :
    AllHarmless settings createdAt earlier desk := by
  induction earlier generalizing visits desk with
  | nil => trivial
  | cons visit rest inductionHypothesis =>
    obtain ⟨later, rfl⟩ := isPrefix
    exact ⟨harmless.1, inductionHypothesis harmless.2 (List.prefix_append _ _)⟩

end Visits

/-! ### Three equal rows -/

/-- An OPEN row of 42 tokens bought at a dollar. -/
def wifSlice : Trade := { wifRow with allocationUsd := some 42 }

/-- A book of three such rows. -/
def threeSlices : Desk := ⟨List.replicate 3 wifSlice, fun _ => none⟩

theorem openRowsOf_threeSlices {pair : String} {stored : Stored Trade}
    (member : stored ∈ openRowsOf pair threeSlices.trades) :
    stored.row = wifSlice ∧ pair = "WIF/USDT" := by
  obtain ⟨found, isPair, _⟩ := mem_openRowsOf.mp member
  have isSlice : stored.row = wifSlice := List.eq_of_mem_replicate (List.mem_of_getElem? found)
  refine ⟨isSlice, ?_⟩
  rw [← isPair, isSlice]
  rfl

theorem openRowsOf_threeSlices_other {pair : String} (other : pair ≠ "WIF/USDT") :
    openRowsOf pair threeSlices.trades = [] :=
  List.eq_nil_iff_forall_not_mem.mpr fun _ member => other (openRowsOf_threeSlices member).2

theorem threeSlices_stand :
    (∀ stored ∈ openRows threeSlices.trades, pairOf (pairBase stored.row.pair) = stored.row.pair) ∧
      lotQuantity (openRowsOf "WIF/USDT" threeSlices.trades) ≤ 200 := by
  decide +kernel

theorem canonical_threeSlices : Canonical threeSlices.trades := threeSlices_stand.1

theorem covered_threeSlices : Covered (fun _ => 200) threeSlices.trades := by
  intro pair
  by_cases isWif : pair = "WIF/USDT"
  · rw [isWif]
    exact threeSlices_stand.2
  · rw [openRowsOf_threeSlices_other isWif]
    exact (by norm_num : (0 : ℚ) ≤ 200)

theorem showsWallet_market {wallet : String → ℚ} {held : ℚ} (least : ∀ pair, wallet pair ≤ held)
    (quote : ℚ) (outAmount : ℕ) : ShowsWallet wallet (market held quote outAmount) where
  listed base token holdings isToken isListed := by
    cases isToken
    cases isListed
    exact least _
  read base token balance isToken isRead := by
    cases isRead
    exact least _

/-- A merge, and the pass over the bursts after it. -/
def mergeThenBursts : List Visit := [⟨.merge, market 200 1 0⟩, ⟨.bursts, market 200 1 0⟩]

theorem mergeThenBursts_told : ∀ visit ∈ mergeThenBursts,
    Answering visit.fates ∧ ShowsWallet (fun _ => 200) visit.fates := by
  refine List.forall_mem_cons.mpr ⟨?_, List.forall_mem_cons.mpr ⟨?_, nofun⟩⟩
  all_goals exact ⟨answering_market _ _ _, showsWallet_market (fun _ => le_rfl) _ _⟩

theorem threeSlices_merged :
    burstFixes (fun id => id * 3600000) (rows (Visit.after exampleSettings
        (fun id => id * 3600000) threeSlices ⟨.merge, market 200 1 0⟩).trades) = [] ∧
      openCost "WIF/USDT" (housekeep exampleSettings (fun id => id * 60000) mergeThenBursts
        threeSlices).trades ≠ openCost "WIF/USDT" threeSlices.trades := by
  decide +kernel

end GdslExchange.Jupiter
