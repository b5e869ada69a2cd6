/-
This file follows concurrent `executeJupiterSwap` calls of one user on one pair
and says under which conditions every executed swap ends up in the book.

A call that has executed its swap has still to pass the strategy upsert, the
in-flight guard of a buy, the look for an OPEN row and the write. The cost that
the OPEN rows carry is the cost bought less the cost sold, up to the calls that
are between their swap and their write; a merge under way owes the rows it has
not cancelled yet.
-/

import GdslExchange.Async.Protocol
import GdslExchange.Jupiter.Merging
import Mathlib.Algebra.BigOperators.Group.Finset.Basic

namespace GdslExchange.Jupiter

open Async Async.Program Async.Protocol
open Numeric

/-! ### Standings -/

/-- What a caller's answers say of its swap: not executed, executed, its OPEN row looked for,
booked, merging the rows it has read, between the two writes of a merge, or stopped between the
swap and the write. -/
inductive Standing where
  | idle
  | executed (swap : Swap)
  | found (looked : String) (swap : Swap) (row : Option (Stored Trade))
  | booked (swap : Swap) (sold : ℚ)
  | merging (swap : Swap) (sold : ℚ) (opens : List (Stored Trade))
  | merged (swap : Swap) (sold : ℚ) (opens : List (Stored Trade)) (primary : ℕ)
  | stranded (swap : Swap)

/-- The cost of what a sell sold, at the entry price of the row it is booked against. -/
def Swap.soldCost (swap : Swap) (row : Trade) : ℚ :=
  match swap.side with
  | .buy => 0
  | .sell => swap.inAmount * row.entryPrice

/-- The group of a merge whose oldest row has an id. -/
def lotOf (primary : ℕ) (opens : List (Stored Trade)) : List (Stored Trade) :=
  ((byPair opens).find? fun lot => lot.head?.map Stored.id = some primary).getD []

namespace Standing

def execute (swap : Swap) : Standing → Standing
  | idle => executed swap
  | standing => standing

def strand : Standing → Standing
  | executed swap => stranded swap
  | standing => standing

def find (looked : String) (row : Option (Stored Trade)) : Standing → Standing
  | executed swap => found looked swap row
  | standing => standing

def read (opens : List (Stored Trade)) : Standing → Standing
  | booked swap sold => merging swap sold opens
  | standing => standing

def write (id : ℕ) (answered : Bool) : Standing → Standing
  | found _ swap (some stored) => booked swap (swap.soldCost stored.row)
  | merging swap sold opens =>
    if answered then merged swap sold opens id else merging swap sold opens
  | standing => standing

def create : Standing → Standing
  | found _ swap none => booked swap 0
  | standing => standing

def cancel : Standing → Standing
  | merged swap sold opens _ => merging swap sold opens
  | standing => standing

end Standing

def nextStanding (standing : Standing) (op : Op) (reply : Except String (Result op)) : Standing :=
  match op, reply with
  | .submitJupiterExecute signed, .ok answer =>
    if wasExecuted answer then standing.execute signed.swap else standing
  | .ensureJupiterStrategyId, .error _ => standing.strand
  | .enterBuy _, .ok false => standing.strand
  | .enterBuy _, .error _ => standing.strand
  | .findOpenTrade looked, .ok row => standing.find looked row
  | .findOpenTrade _, .error _ => standing.strand
  | .findOpenTrades, .ok opens => standing.read opens
  | .updateTrade id _, .ok _ => standing.write id true
  | .updateTrade id _, .error _ => standing.write id false
  | .createTrade _, _ => standing.create
  | .cancelOpenTrades _, _ => standing.cancel
  | _, _ => standing

/-- The update that books a swap against an OPEN row. -/
def bookingPatch (swap : Swap) (price : ℚ) (row : Trade) : TradePatch :=
  match swap.side with
  | .buy => buyPatch row swap.alloc price
  | .sell => sellPatch row swap price

/-- A swap is submitted once, and rows are written only to book it and to merge. -/
def PermitsSwap (standing : Standing) : Op → Prop
  | .submitJupiterExecute _ => standing = .idle
  | .updateTrade id patch => match standing with
    | .found _ swap (some stored) =>
      id = stored.id ∧ ∃ price, patch = bookingPatch swap price stored.row
    | .merging _ _ opens => ∃ primary extra rest, primary :: extra :: rest ∈ byPair opens ∧
        id = primary.id ∧ patch = mergePatch primary.row (primary :: extra :: rest)
    | _ => False
  | .createTrade row => match standing with
    | .found looked swap none => ∃ price, row = newTrade looked swap price
    | _ => False
  | .cancelOpenTrades ids => match standing with
    | .merged _ _ opens id => ∃ primary extra rest, primary :: extra :: rest ∈ byPair opens ∧
        id = primary.id ∧ ids = (extra :: rest).map Stored.id
    | _ => False
  | .cancelOtherTrades _ _ => ∃ swap sold, standing = .booked swap sold
  | _ => True

/-- How a call goes about its swap. -/
def swapping : Protocol venue Standing where
  start := .idle
  permits := PermitsSwap
  next := nextStanding

/-! ### The property -/

/-- The swap of a caller, once it is executed. -/
def Standing.swap? : Standing → Option Swap
  | .idle => none
  | .executed swap => some swap
  | .found _ swap _ => some swap
  | .booked swap _ => some swap
  | .merging swap _ _ => some swap
  | .merged swap _ _ _ => some swap
  | .stranded swap => some swap

/-- The cost of an executed buy, at what a unit of each mint is worth. -/
def Swap.boughtCost (worth : String → ℚ) (swap : Swap) : ℚ :=
  match swap.side with
  | .buy => swap.inAmount * worth swap.inputMint
  | .sell => 0

/-- The cost that a caller has bought. -/
def Standing.bought (worth : String → ℚ) (standing : Standing) : ℚ :=
  (standing.swap?.map fun swap => swap.boughtCost worth).getD 0

/-- The cost of what a caller has sold out of the book. -/
def Standing.sold : Standing → ℚ
  | .booked _ sold => sold
  | .merging _ sold _ => sold
  | .merged _ sold _ _ => sold
  | _ => 0

/-- A write to a row that took effect. -/
def WritesRow : Event venue → Prop
  | ⟨_, .updateTrade _ _, delivery, _⟩ => delivery.Applies
  | ⟨_, .createTrade _, delivery, _⟩ => delivery.Applies
  | _ => False

/-- The OPEN rows of the pair carry the cost of every executed buy less the cost of what was
sold, and no executed call has ended with an error and without a row update. -/
structure EverySwapBooked (pair : String) (worth : String → ℚ) (start : Desk) (callers : ℕ)
    (system : System venue SwapResult) : Prop where
  cost : openCost pair system.moment.state.trades = openCost pair start.trades +
    ∑ caller ∈ Finset.range callers, ((swapping.phase system.moment caller).bought worth -
      (swapping.phase system.moment caller).sold)
  noneLost : ∀ (caller : ℕ) (failure : String),
    system.calls[caller]?.bind result? = some (.error failure) →
    (swapping.phase system.moment caller).swap?.isSome →
    ∃ event ∈ system.moment.own caller, WritesRow event

/-! ### The condition -/

/-- A swap whose booking against an OPEN row takes off or adds its own cost: a buy paid in a mint
worth what is booked, a skim that sold what it asked for and leaves more than dust, or another
sell of exactly the row's quantity. -/
def Swap.Fits (worth : String → ℚ) (swap : Swap) (row : Trade) : Prop :=
  match swap.side with
  | .buy => swap.alloc = swap.boughtCost worth ∧ 0 ≤ row.alloc
  | .sell =>
    if row.TakesSlice swap then
      swap.asked = swap.inAmount ∧ row.remainingAlloc swap > dustAlloc
    else swap.inAmount * row.entryPrice = row.alloc

/-- The rows stand as they were read. -/
def Current (trades : List Trade) (lot : List (Stored Trade)) : Prop :=
  ∀ stored ∈ lot, trades[stored.id]? = some stored.row

/-- A buy that is executed and not booked. -/
def Standing.PendingBuy : Standing → Prop
  | .executed swap => swap.side = .buy
  | .found _ swap _ => swap.side = .buy
  | .stranded swap => swap.side = .buy
  | _ => False

/-- The executed swap of a caller is not booked yet. -/
def Standing.Unbooked : Standing → Prop
  | .executed _ => True
  | _ => False

/-- A row is created for a swap without loss: a buy at its own cost, a sell while no other buy is
waiting to be booked. -/
def CreatesSafely (worth : String → ℚ) (swap : Swap) (callers : ℕ) (others : ℕ → Standing)
    (caller : ℕ) : Prop :=
  match swap.side with
  | .buy => max 0 swap.alloc = swap.boughtCost worth
  | .sell => ∀ other < callers, other ≠ caller → ¬ (others other).PendingBuy

/-- The steps under which every swap is booked. -/
def Smooth (pair : String) (worth : String → ℚ) (callers : ℕ) (step : Step venue) : Prop :=
  let standing := swapping.phase step.before step.caller
  let trades := step.before.state.trades
  match step.op, step.fate with
  | .ensureJupiterStrategyId, delivery => standing.Unbooked → delivery = .answered
  | .enterBuy bought, now => standing.Unbooked → ¬ step.before.state.buying bought now
  | .findOpenTrade looked, delivery =>
    standing.Unbooked → delivery = .answered ∧ looked = pair
  | .updateTrade id _, delivery => match standing with
    | .found _ swap (some stored) =>
      delivery.Applies ∧ Current trades [stored] ∧ swap.Fits worth stored.row
    | .merging _ _ opens => (∀ stored ∈ lotOf id opens, stored.row.pair = pair) →
        delivery.Truthful ∧ Current trades (lotOf id opens) ∧
          ∀ stored ∈ lotOf id opens, stored.row.Counted ∨ stored.row.alloc = 0
    | _ => True
  | .createTrade _, delivery => match standing with
    | .found _ swap none => delivery.Applies ∧
        CreatesSafely worth swap callers (swapping.phase step.before) step.caller
    | _ => True
  | .cancelOtherTrades _ kept, _ =>
    ∀ stored ∈ openRowsOf pair trades, stored.id ≠ kept → stored.row.alloc = 0
  | .cancelOpenTrades _, delivery => match standing with
    | .merged _ _ opens primary => (∀ stored ∈ lotOf primary opens, stored.row.pair = pair) →
        delivery.Applies ∧ Current trades (lotOf primary opens).tail
    | _ => True
  | _, _ => True

/-! ### The books -/

/-- What the OPEN rows of the pair carry on a caller's behalf. -/
def Standing.carried (pair : String) (worth : String → ℚ) : Standing → ℚ
  | .booked swap sold => swap.boughtCost worth - sold
  | .merging swap sold _ => swap.boughtCost worth - sold
  | .merged swap sold opens primary => swap.boughtCost worth - sold +
      ((lotOf primary opens).tail.map fun stored => stored.row.carries pair).sum
  | _ => 0

/-- The row write of the caller's swap is behind it. -/
def Standing.Written : Standing → Prop
  | .booked _ _ => True
  | .merging _ _ _ => True
  | .merged _ _ _ _ => True
  | _ => False

/-- The rows a merge has read. -/
def Standing.snapshot : Standing → List (Stored Trade)
  | .merging _ _ opens => opens
  | .merged _ _ opens _ => opens
  | _ => []

/-- The row a caller has found is an OPEN row of the pair. -/
def Standing.Sought (pair : String) : Standing → Prop
  | .found looked _ row => looked = pair ∧
      ∀ stored ∈ row, stored.row.pair = pair ∧ stored.row.IsOpen
  | _ => True

/-- A list of OPEN rows under ids of their own, whose pairs have not changed since. -/
structure Snapshot (trades : List Trade) (opens : List (Stored Trade)) : Prop where
  samePairs : SamePairs trades opens
  nodup : opens.Nodup
  ids : ∀ first ∈ opens, ∀ second ∈ opens, first.id = second.id → first = second
  areOpen : ∀ stored ∈ opens, stored.row.IsOpen

/-- The books balance, up to the swaps that are not booked yet. -/
structure Balanced (pair : String) (worth : String → ℚ) (callers : ℕ) (start : Desk)
    (moment : Moment venue) : Prop where
  cost : openCost pair moment.state.trades = openCost pair start.trades +
    ∑ caller ∈ Finset.range callers, (swapping.phase moment caller).carried pair worth
  noneStranded : ∀ caller swap, swapping.phase moment caller ≠ .stranded swap
  written : ∀ caller, (swapping.phase moment caller).Written →
    ∃ event ∈ moment.own caller, WritesRow event
  sought : ∀ caller, (swapping.phase moment caller).Sought pair
  snapshots : ∀ caller, Snapshot moment.state.trades (swapping.phase moment caller).snapshot

section Steps

variable {pair : String} {worth : String → ℚ} {callers : ℕ} {start : Desk} {step : Step venue}

theorem snapshot_nil (trades : List Trade) : Snapshot trades [] where
  samePairs := List.forall_mem_nil _
  nodup := List.nodup_nil
  ids := List.forall_mem_nil _
  areOpen := List.forall_mem_nil _

variable {opens : List (Stored Trade)}

/-- No operation changes the pair of a row. -/
theorem samePairs_perform (op : Op) (fate : Fate op) (desk : Desk)
    (same : SamePairs desk.trades opens) : SamePairs (perform op fate desk).1.trades opens := by
  have written : ∀ {delivery : Delivery} {later : Desk}, SamePairs later.trades opens →
      SamePairs (if delivery.Applies then later else desk).trades opens := by
    intro delivery later sameLater
    split
    · exact sameLater
    · exact same
  cases op with
  | updateTrade id patch =>
    simp only [perform]
    split
    · exact same
    · next found => exact written (same.set found patch)
  | cancelOpenTrades ids =>
    exact written (same.cancelWhere fun stored => stored.id ∈ ids ∧ stored.row.IsOpen)
  | cancelOtherTrades other kept =>
    exact written (same.cancelWhere fun stored =>
      stored.id ≠ kept ∧ stored.row.pair = other ∧ stored.row.IsOpen)
  | createTrade row =>
    refine written fun stored member => ?_
    obtain ⟨current, found, samePair⟩ := same stored member
    exact ⟨current, List.getElem?_append_left (List.getElem?_eq_some_iff.mp found).1 ▸ found,
      samePair⟩
  | enterBuy bought =>
    simp only [perform]
    split
    · exact same
    · exact same
  | _ => exact same

theorem balanced_of_move (bound : step.caller < callers)
    (balanced : Balanced pair worth callers start step.before) {next : Standing}
    (isNext : nextStanding (swapping.phase step.before step.caller) step.op step.reply = next)
    (moved : openCost pair step.after.state.trades = openCost pair step.before.state.trades +
      (next.carried pair worth -
        (swapping.phase step.before step.caller).carried pair worth))
    (notStranded : ∀ swap, next ≠ .stranded swap)
    (written : next.Written → (swapping.phase step.before step.caller).Written ∨
      WritesRow step.event)
    (sought : next.Sought pair)
    (snapshot : next.snapshot = (swapping.phase step.before step.caller).snapshot ∨
      Snapshot step.after.state.trades next.snapshot) :
    Balanced pair worth callers start step.after := by
  have phases : swapping.phase step.after =
      Function.update (swapping.phase step.before) step.caller next := by
    rw [phases_after, ← isNext]
    rfl
  have kept : ∀ opens, Snapshot step.before.state.trades opens →
      Snapshot step.after.state.trades opens := fun opens known =>
    ⟨samePairs_perform step.op step.fate _ known.samePairs, known.nodup, known.ids,
      known.areOpen⟩
  refine ⟨?_, fun caller swap => ?_, fun caller => ?_, fun caller => ?_, fun caller => ?_⟩
  · have member : step.caller ∈ Finset.range callers := Finset.mem_range.mpr bound
    rw [moved, balanced.cost, phases]
    have others : ∑ caller ∈ (Finset.range callers).erase step.caller,
        (Function.update (swapping.phase step.before) step.caller next caller).carried pair worth =
        ∑ caller ∈ (Finset.range callers).erase step.caller,
          (swapping.phase step.before caller).carried pair worth :=
      Finset.sum_congr rfl fun caller isOther => by
        rw [Function.update_of_ne (Finset.ne_of_mem_erase isOther)]
    rw [← Finset.add_sum_erase _ _ member, ← Finset.add_sum_erase (Finset.range callers)
      (fun caller => (Function.update (swapping.phase step.before) step.caller next
        caller).carried pair worth) member, others, Function.update_self]
    ring
  · rw [phases]
    by_cases isCaller : caller = step.caller
    · rw [isCaller, Function.update_self]
      exact notStranded swap
    · rw [Function.update_of_ne isCaller]
      exact balanced.noneStranded caller swap
  · rw [phases]
    by_cases isCaller : caller = step.caller
    · rw [isCaller, Function.update_self, Step.own_after_self]
      intro isWritten
      rcases written isWritten with before | now
      · obtain ⟨event, member, writes⟩ := balanced.written step.caller before
        exact ⟨event, List.mem_cons_of_mem _ member, writes⟩
      · exact ⟨step.event, List.mem_cons_self, now⟩
    · rw [Function.update_of_ne isCaller, Step.own_after_other step isCaller]
      exact balanced.written caller
  · rw [phases]
    by_cases isCaller : caller = step.caller
    · rw [isCaller, Function.update_self]
      exact sought
    · rw [Function.update_of_ne isCaller]
      exact balanced.sought caller
  · rw [phases]
    by_cases isCaller : caller = step.caller
    · rw [isCaller, Function.update_self]
      rcases snapshot with same | known
      · rw [same]
        exact kept _ (balanced.snapshots step.caller)
      · exact known
    · rw [Function.update_of_ne isCaller]
      exact kept _ (balanced.snapshots caller)

/-! ### Steps that write no row -/

/-- An operation that writes no row. -/
def Reads : Op → Prop
  | .updateTrade _ _ => False
  | .cancelOpenTrades _ => False
  | .cancelOtherTrades _ _ => False
  | .createTrade _ => False
  | _ => True

theorem trades_after_read (reads : Reads step.op) :
    step.after.state.trades = step.before.state.trades := by
  obtain ⟨before, caller, op, fate⟩ := step
  cases op with
  | enterBuy bought =>
    simp only [Step.after, perform]
    split <;> rfl
  | _ => first | rfl | exact reads.elim

/-- A read moves a caller on before its write, and into the merge after it. -/
inductive ReadMove (pair : String) (trades : List Trade) : Standing → Standing → Prop where
  | stay (standing : Standing) : ReadMove pair trades standing standing
  | execute (swap : Swap) : ReadMove pair trades .idle (.executed swap)
  | find (swap : Swap) : ReadMove pair trades (.executed swap)
      (.found pair swap (openRowsOf pair trades).head?)
  | read (swap : Swap) (sold : ℚ) : ReadMove pair trades (.booked swap sold)
      (.merging swap sold (openRows trades))

variable {trades : List Trade}

theorem readMove_strand {standing : Standing} (safe : ¬ standing.Unbooked) :
    ReadMove pair trades standing standing.strand := by
  cases standing with
  | executed swap => exact absurd trivial safe
  | _ => exact .stay _

variable {looked : String}

theorem readMove_find (standing : Standing) (isPair : standing.Unbooked → looked = pair) :
    ReadMove pair trades standing (standing.find looked (openRowsOf looked trades).head?) := by
  cases standing with
  | executed swap =>
    rw [isPair trivial]
    exact .find swap
  | _ => exact .stay _

theorem readMove_execute (standing : Standing) (swap : Swap) :
    ReadMove pair trades standing (standing.execute swap) := by
  cases standing with
  | idle => exact .execute swap
  | _ => exact .stay _

theorem readMove_read (standing : Standing) :
    ReadMove pair trades standing (standing.read (openRows trades)) := by
  cases standing with
  | booked swap sold => exact .read swap sold
  | _ => exact .stay _

theorem readMove_of_smooth (reads : Reads step.op) (smooth : Smooth pair worth callers step) :
    ReadMove pair step.before.state.trades (swapping.phase step.before step.caller)
      (nextStanding (swapping.phase step.before step.caller) step.op step.reply) := by
  obtain ⟨before, caller, op, fate⟩ := step
  set standing := swapping.phase before caller with standingIs
  cases op with
  | submitJupiterExecute signed =>
    cases fate with
    | ok answer =>
      show ReadMove _ _ _ (if wasExecuted answer then standing.execute signed.swap else standing)
      split
      · exact readMove_execute standing signed.swap
      · exact .stay _
    | error message => exact .stay _
  | ensureJupiterStrategyId =>
    cases fate with
    | answered => exact .stay _
    | refused message => exact readMove_strand fun unbooked => by cases smooth unbooked
    | lost message => exact readMove_strand fun unbooked => by cases smooth unbooked
  | enterBuy bought =>
    by_cases buying : before.state.buying bought fate
    · have reply : (Step.mk before caller (.enterBuy bought) fate).reply = .ok false := by
        simp only [Step.reply, perform, if_pos buying]
      rw [reply]
      exact readMove_strand fun unbooked => smooth unbooked buying
    · have reply : (Step.mk before caller (.enterBuy bought) fate).reply = .ok true := by
        simp only [Step.reply, perform, if_neg buying]
      rw [reply]
      exact .stay _
  | findOpenTrade looked =>
    cases fate with
    | answered => exact readMove_find standing fun unbooked => (smooth unbooked).2
    | refused message => exact readMove_strand fun unbooked => by cases (smooth unbooked).1
    | lost message => exact readMove_strand fun unbooked => by cases (smooth unbooked).1
  | findOpenTrades =>
    cases fate with
    | answered => exact readMove_read standing
    | refused message => exact .stay _
    | lost message => exact .stay _
  | updateTrade id patch => exact reads.elim
  | cancelOpenTrades ids => exact reads.elim
  | cancelOtherTrades other kept => exact reads.elim
  | createTrade row => exact reads.elim
  | _ => exact .stay _

theorem snapshot_openRows (trades : List Trade) : Snapshot trades (openRows trades) where
  samePairs := samePairs_openRows trades
  nodup := (nodup_rows trades).filter _
  ids first memberFirst second memberSecond sameId := by
    have foundFirst := (mem_openRows.mp memberFirst).1
    have foundSecond := (mem_openRows.mp memberSecond).1
    rw [sameId, foundSecond] at foundFirst
    cases first
    cases second
    cases foundFirst
    cases sameId
    rfl
  areOpen stored member := (mem_openRows.mp member).2

theorem balanced_read (bound : step.caller < callers) (reads : Reads step.op)
    (smooth : Smooth pair worth callers step)
    (balanced : Balanced pair worth callers start step.before) :
    Balanced pair worth callers start step.after := by
  have sameTrades := trades_after_read reads
  have move := readMove_of_smooth reads smooth
  have sameCost : ∀ {next : Standing}, next.carried pair worth =
      (swapping.phase step.before step.caller).carried pair worth →
      openCost pair step.after.state.trades = openCost pair step.before.state.trades +
        (next.carried pair worth -
          (swapping.phase step.before step.caller).carried pair worth) := by
    intro next same
    rw [same, sub_self, add_zero, sameTrades]
  generalize isNext : nextStanding (swapping.phase step.before step.caller) step.op step.reply =
    next at move
  generalize isStanding : swapping.phase step.before step.caller = standing at move
  cases move with
  | stay =>
    refine balanced_of_move bound balanced isNext (sameCost (by rw [isStanding])) ?_ ?_ ?_ ?_
    · rw [← isStanding]
      exact balanced.noneStranded step.caller
    · rw [isStanding]
      exact Or.inl
    · rw [← isStanding]
      exact balanced.sought step.caller
    · exact Or.inl (by rw [isStanding])
  | execute swap =>
    exact balanced_of_move bound balanced isNext (sameCost (by rw [isStanding]; rfl)) nofun nofun
      trivial (Or.inl (by rw [isStanding]; rfl))
  | find swap =>
    refine balanced_of_move bound balanced isNext (sameCost (by rw [isStanding]; rfl)) nofun nofun
      ⟨rfl, fun stored member => ?_⟩ (Or.inl (by rw [isStanding]; rfl))
    exact (mem_openRowsOf.mp (List.mem_of_head? member)).2
  | read swap sold =>
    refine balanced_of_move bound balanced isNext (sameCost (by rw [isStanding]; rfl)) nofun
      (fun _ => Or.inl (by rw [isStanding]; trivial)) trivial (Or.inr ?_)
    rw [sameTrades]
    exact snapshot_openRows _

variable {row : Trade}

/-! ### The booking steps -/

theorem carries_of_open (isPair : row.pair = pair) (isOpen : row.IsOpen) :
    row.carries pair = row.alloc :=
  if_pos ⟨isPair, isOpen⟩

theorem carries_booked {swap : Swap} (isPair : row.pair = pair) (isOpen : row.IsOpen)
    (fits : swap.Fits worth row) (price : ℚ) :
    ((bookingPatch swap price row).apply row).carries pair - row.carries pair =
      swap.boughtCost worth - swap.soldCost row := by
  rw [carries_of_open isPair isOpen]
  unfold Swap.Fits at fits
  unfold bookingPatch Swap.soldCost
  cases side : swap.side with
  | buy =>
    simp only [side] at fits ⊢
    obtain ⟨isCost, funded⟩ := fits
    have stays : ((buyPatch row swap.alloc price).apply row).carries pair =
        max 0 row.alloc + swap.alloc := carries_of_open isPair isOpen
    rw [stays, max_eq_right funded, isCost]
    ring
  | sell =>
    simp only [side] at fits ⊢
    have noCost : swap.boughtCost worth = 0 := by
      unfold Swap.boughtCost
      rw [side]
    rw [noCost]
    show (soldRow row swap price).carries pair - row.alloc = 0 - swap.inAmount * row.entryPrice
    by_cases takes : row.TakesSlice swap
    · rw [if_pos takes] at fits
      obtain ⟨asksWhatItSold, moreThanDust⟩ := fits
      have stays : (soldRow row swap price).IsOpen := isOpen_soldRow.mpr ⟨takes, moreThanDust⟩
      have carries : (soldRow row swap price).carries pair = (soldRow row swap price).alloc :=
        carries_of_open isPair stays
      rw [carries, alloc_soldRow stays, Trade.remainingAlloc_eq takes, asksWhatItSold]
      ring
    · rw [if_neg takes] at fits
      have closed : ¬ (soldRow row swap price).IsOpen := fun stays =>
        takes (isOpen_soldRow.mp stays).1
      rw [Trade.carries, if_neg fun both => closed both.2, fits]

variable {id : ℕ}

/-- What an update does to the book and answers. -/
theorem perform_update {desk : Desk} (found : desk.trades[id]? = some row) (patch : TradePatch)
    (delivery : Delivery) :
    perform (.updateTrade id patch) delivery desk =
      delivery.write desk (desk.store (desk.trades.set id (patch.apply row)))
        ⟨id, patch.apply row⟩ := by
  simp only [perform, found]

variable {before : Moment venue} {caller : ℕ} {delivery : Delivery}

theorem balanced_book {swap : Swap} {stored : Stored Trade} {patch : TradePatch}
    (bound : caller < callers)
    (standing : swapping.phase before caller = .found looked swap (some stored))
    (permitted : id = stored.id ∧ ∃ price, patch = bookingPatch swap price stored.row)
    (smooth : Smooth pair worth callers ⟨before, caller, .updateTrade id patch, delivery⟩)
    (balanced : Balanced pair worth callers start before) :
    Balanced pair worth callers start
      (Step.mk before caller (.updateTrade id patch) delivery).after := by
  obtain ⟨isId, price, isPatch⟩ := permitted
  subst isId isPatch
  simp only [Smooth, standing] at smooth
  obtain ⟨applies, current, fits⟩ := smooth
  have sought := balanced.sought caller
  rw [standing] at sought
  obtain ⟨_, isRow⟩ := sought
  obtain ⟨isPair, isOpen⟩ := isRow stored rfl
  have found := current stored (List.mem_singleton_self _)
  set step : Step venue :=
    ⟨before, caller, .updateTrade stored.id (bookingPatch swap price stored.row), delivery⟩
    with stepIs
  have written := perform_update found (bookingPatch swap price stored.row) delivery
  have isNext : nextStanding (swapping.phase step.before step.caller) step.op step.reply =
      .booked swap (swap.soldCost stored.row) := by
    show nextStanding (swapping.phase before caller) step.op step.reply = _
    rw [standing]
    cases step.reply <;> rfl
  have trades : step.after.state.trades =
      before.state.trades.set stored.id ((bookingPatch swap price stored.row).apply stored.row) := by
    show (perform _ _ _).1.trades = _
    rw [written]
    exact congrArg Desk.trades (if_pos applies)
  refine balanced_of_move bound balanced isNext ?_ nofun (fun _ => Or.inr applies) trivial
    (Or.inr (snapshot_nil _))
  show openCost pair step.after.state.trades = openCost pair before.state.trades +
    ((Standing.booked swap (swap.soldCost stored.row)).carried pair worth -
      (swapping.phase before caller).carried pair worth)
  rw [trades, openCost_set found, carries_booked isPair isOpen fits price, standing]
  simp only [Standing.carried, sub_zero]

theorem balanced_create {swap : Swap} (bound : caller < callers)
    (standing : swapping.phase before caller = .found looked swap none)
    (permitted : ∃ price, row = newTrade looked swap price)
    (smooth : Smooth pair worth callers ⟨before, caller, .createTrade row, delivery⟩)
    (balanced : Balanced pair worth callers start before) :
    Balanced pair worth callers start (Step.mk before caller (.createTrade row) delivery).after := by
  obtain ⟨price, isRow⟩ := permitted
  subst isRow
  simp only [Smooth, standing] at smooth
  obtain ⟨applies, safely⟩ := smooth
  have sought := balanced.sought caller
  rw [standing] at sought
  obtain ⟨isPair, _⟩ := sought
  subst isPair
  set step : Step venue := ⟨before, caller, .createTrade (newTrade looked swap price), delivery⟩
    with stepIs
  have isNext : nextStanding (swapping.phase step.before step.caller) step.op step.reply =
      .booked swap 0 := by
    show nextStanding (swapping.phase before caller) step.op step.reply = _
    rw [standing]
    rfl
  have trades : step.after.state.trades =
      before.state.trades ++ [newTrade looked swap price] :=
    congrArg Desk.trades (if_pos applies)
  have cost : (newTrade looked swap price).carries looked = swap.boughtCost worth := by
    unfold CreatesSafely at safely
    cases side : swap.side with
    | buy =>
      simp only [side] at safely
      have isOpen : (newTrade looked swap price).IsOpen := by
        simp [Trade.IsOpen, newTrade, side]
      have carries : (newTrade looked swap price).carries looked =
          (newTrade looked swap price).alloc := carries_of_open rfl isOpen
      rw [carries, ← safely]
      unfold Trade.alloc newTrade
      dsimp only
      split
      · next positive => exact (max_eq_right positive.le).symm
      · next notPositive => exact (max_eq_left (not_lt.mp notPositive)).symm
    | sell =>
      have closed : ¬ (newTrade looked swap price).IsOpen := by
        simp [Trade.IsOpen, newTrade, side]
      rw [Trade.carries, if_neg fun both => closed both.2, Swap.boughtCost, side]
  refine balanced_of_move bound balanced isNext ?_ (fun _ => Standing.noConfusion)
    (fun _ => Or.inr applies) trivial (Or.inr (snapshot_nil _))
  show openCost looked step.after.state.trades = openCost looked before.state.trades +
    ((Standing.booked swap 0).carried looked worth -
      (swapping.phase before caller).carried looked worth)
  rw [trades, openCost_append, cost, standing]
  simp only [Standing.carried, sub_zero]

/-- The other rows of a closed lot carry nothing. -/
theorem balanced_cancelOthers {swap : Swap} {sold : ℚ} {other : String} {kept : ℕ}
    (bound : caller < callers) (standing : swapping.phase before caller = .booked swap sold)
    (smooth : Smooth pair worth callers ⟨before, caller, .cancelOtherTrades other kept, delivery⟩)
    (balanced : Balanced pair worth callers start before) :
    Balanced pair worth callers start
      (Step.mk before caller (.cancelOtherTrades other kept) delivery).after := by
  set step : Step venue := ⟨before, caller, .cancelOtherTrades other kept, delivery⟩ with stepIs
  have idle : ∀ stored ∈ rows before.state.trades,
      decide (stored.id ≠ kept ∧ stored.row.pair = other ∧ stored.row.IsOpen) →
        stored.row.carries pair = 0 := by
    intro stored member holds
    obtain ⟨notKept, _, isOpen⟩ := of_decide_eq_true holds
    unfold Trade.carries
    split
    · next both =>
      exact smooth stored (mem_openRowsOf.mpr ⟨mem_rows.mp member, both⟩) notKept
    · rfl
  have isNext : nextStanding (swapping.phase step.before step.caller) step.op step.reply =
      .booked swap sold := by
    show nextStanding (swapping.phase before caller) step.op step.reply = _
    rw [standing]
    rfl
  refine balanced_of_move bound balanced isNext ?_ nofun (fun _ => Or.inl ?_) trivial
    (Or.inl (by rw [standing]))
  · rw [standing, sub_self, add_zero]
    show openCost pair (if delivery.Applies then _ else before.state).trades = _
    split
    · exact openCost_cancelWhere_idle idle
    · rfl
  · rw [standing]
    trivial

variable {lot : List (Stored Trade)}

/-! ### The steps of a merge -/

theorem mem_lot (isLot : lot ∈ byPair opens) :
    ∃ key, ∀ stored, stored ∈ lot ↔ stored ∈ opens ∧ stored.row.pair = key := by
  obtain ⟨key, _, rfl⟩ := List.mem_map.mp isLot
  exact ⟨key, fun stored => by rw [List.mem_filter, decide_eq_true_eq]⟩

theorem nodup_lot (nodup : opens.Nodup) (isLot : lot ∈ byPair opens) : lot.Nodup := by
  obtain ⟨key, _, rfl⟩ := List.mem_map.mp isLot
  exact nodup.filter _

/-- Groups of one pair are the same group. -/
theorem byPair_eq {first second : List (Stored Trade)} (isFirst : first ∈ byPair opens)
    (isSecond : second ∈ byPair opens) {stored : Stored Trade} (inFirst : stored ∈ first)
    (inSecond : stored ∈ second) : first = second := by
  obtain ⟨keyFirst, _, rfl⟩ := List.mem_map.mp isFirst
  obtain ⟨keySecond, _, rfl⟩ := List.mem_map.mp isSecond
  have pairFirst := of_decide_eq_true (List.mem_filter.mp inFirst).2
  have pairSecond := of_decide_eq_true (List.mem_filter.mp inSecond).2
  rw [← pairFirst, ← pairSecond]

variable {rest : List (Stored Trade)} {primary : Stored Trade}

theorem lotOf_eq (known : Snapshot trades opens) (isLot : primary :: rest ∈ byPair opens) :
    lotOf primary.id opens = primary :: rest := by
  have present : ∃ lot, (byPair opens).find? (fun lot =>
      lot.head?.map Stored.id = some primary.id) = some lot :=
    Option.isSome_iff_exists.mp (List.find?_isSome.mpr ⟨_, isLot, by simp⟩)
  obtain ⟨lot, isFound⟩ := present
  unfold lotOf
  rw [isFound]
  show lot = primary :: rest
  have isMember := List.mem_of_find?_eq_some isFound
  have sameHead := List.find?_some isFound
  rw [decide_eq_true_eq] at sameHead
  obtain ⟨head, isHead, sameId⟩ := Option.map_eq_some_iff.mp sameHead
  have inLot : head ∈ lot := List.mem_of_head? isHead
  obtain ⟨_, memberLot⟩ := mem_lot isMember
  obtain ⟨_, memberRest⟩ := mem_lot isLot
  have isPrimary : head = primary := known.ids head ((memberLot head).mp inLot).1 primary
    ((memberRest primary).mp List.mem_cons_self).1 sameId
  rw [isPrimary] at inLot
  exact byPair_eq isMember isLot inLot List.mem_cons_self

/-- What the rows of a group carry. -/
theorem carries_lot (areOpen : ∀ stored ∈ lot, stored.row.IsOpen)
    (arePair : ∀ stored ∈ lot, stored.row.pair = pair) :
    (lot.map fun stored => stored.row.carries pair).sum =
      (lot.map fun stored => stored.row.alloc).sum := by
  congr 1
  exact List.map_congr_left fun stored inLot =>
    carries_of_open (arePair stored inLot) (areOpen stored inLot)

theorem carries_elsewhere (others : ∀ stored ∈ lot, stored.row.pair ≠ pair) :
    (lot.map fun stored => stored.row.carries pair).sum = 0 := by
  refine List.sum_eq_zero fun cost inCosts => ?_
  obtain ⟨stored, inLot, rfl⟩ := List.mem_map.mp inCosts
  exact if_neg fun both => others stored inLot both.1

theorem openCost_merged (found : trades[primary.id]? = some primary.row)
    (areOpen : ∀ stored ∈ primary :: rest, stored.row.IsOpen)
    (arePair : ∀ stored ∈ primary :: rest, stored.row.pair = pair)
    (counted : ∀ stored ∈ primary :: rest, stored.row.Counted ∨ stored.row.alloc = 0) :
    openCost pair (trades.set primary.id
        ((mergePatch primary.row (primary :: rest)).apply primary.row)) =
      openCost pair trades + (rest.map fun stored => stored.row.carries pair).sum := by
  have whole := carries_lot areOpen arePair
  have taken : ((mergePatch primary.row (primary :: rest)).apply primary.row).carries pair =
      ((mergePatch primary.row (primary :: rest)).apply primary.row).alloc :=
    carries_of_open (arePair primary List.mem_cons_self) (areOpen primary List.mem_cons_self)
  rw [openCost_set found, taken, alloc_merged List.mem_cons_self counted, ← whole,
    List.map_cons, List.sum_cons]
  ring

theorem openCost_elsewhere {written : Trade} (found : trades[id]? = some row)
    (isOther : row.pair ≠ pair) (same : written.pair ≠ pair) :
    openCost pair (trades.set id written) = openCost pair trades := by
  have outside : ∀ row : Trade, row.pair ≠ pair → row.carries pair = 0 := fun row other =>
    if_neg fun both => other both.1
  rw [openCost_set found, outside row isOther, outside written same]
  ring

/-- The oldest row of a group takes over the cost of the group. -/
theorem balanced_merge {swap : Swap} {sold : ℚ} (bound : caller < callers)
    (standing : swapping.phase before caller = .merging swap sold opens)
    (isLot : primary :: rest ∈ byPair opens)
    (smooth : Smooth pair worth callers ⟨before, caller,
      .updateTrade primary.id (mergePatch primary.row (primary :: rest)), delivery⟩)
    (balanced : Balanced pair worth callers start before) :
    Balanced pair worth callers start (Step.mk before caller
      (.updateTrade primary.id (mergePatch primary.row (primary :: rest))) delivery).after := by
  have known : Snapshot before.state.trades opens := by
    have read := balanced.snapshots caller
    rw [standing] at read
    exact read
  have isLotOf := lotOf_eq known isLot
  simp only [Smooth, standing, isLotOf] at smooth
  obtain ⟨key, member⟩ := mem_lot isLot
  obtain ⟨inOpens, isKey⟩ := (member primary).mp List.mem_cons_self
  obtain ⟨current, found, samePair⟩ := known.samePairs primary inOpens
  set patch := mergePatch primary.row (primary :: rest) with patchIs
  set step : Step venue := ⟨before, caller, .updateTrade primary.id patch, delivery⟩ with stepIs
  have written := perform_update found patch delivery
  have moves : ∀ {next : Standing}, (next = .merging swap sold opens ∨
        next = .merged swap sold opens primary.id) →
      nextStanding (swapping.phase step.before step.caller) step.op step.reply = next →
      openCost pair step.after.state.trades = openCost pair before.state.trades +
        (next.carried pair worth - (swapping.phase before caller).carried pair worth) →
      Balanced pair worth callers start step.after := by
    intro next isMerge isNext moved
    have kept : next.snapshot = opens ∧ next.Written ∧ next.Sought pair := by
      rcases isMerge with rfl | rfl <;> exact ⟨rfl, trivial, trivial⟩
    refine balanced_of_move bound balanced isNext moved ?_ (fun _ => Or.inl ?_) kept.2.2
      (Or.inl ?_)
    · rcases isMerge with rfl | rfl <;> exact nofun
    · rw [standing]
      trivial
    · rw [standing]
      exact kept.1
  have reply : step.reply = (delivery.write before.state _ _).2 := congrArg Prod.snd written
  have trades : step.after.state.trades = if delivery.Applies then
      before.state.trades.set primary.id (patch.apply current) else before.state.trades := by
    show (perform _ _ _).1.trades = _
    rw [written]
    show (if delivery.Applies then _ else before.state).trades = _
    split <;> rfl
  have isNext : nextStanding (swapping.phase step.before step.caller) step.op step.reply =
      if delivery = .answered then .merged swap sold opens primary.id
      else .merging swap sold opens := by
    show nextStanding (swapping.phase before caller) step.op step.reply = _
    rw [standing, reply]
    cases delivery <;> rfl
  have tail : (primary :: rest).tail = rest := rfl
  by_cases isPair : key = pair
  · -- the pair's own group, as it was read
    have arePair : ∀ stored ∈ primary :: rest, stored.row.pair = pair := fun stored inLot =>
      ((member stored).mp inLot).2.trans isPair
    have areOpen : ∀ stored ∈ primary :: rest, stored.row.IsOpen := fun stored inLot =>
      known.areOpen stored ((member stored).mp inLot).1
    obtain ⟨truthful, asRead, counted⟩ := smooth arePair
    have isCurrent := asRead primary List.mem_cons_self
    rw [found] at isCurrent
    cases isCurrent
    have merged := openCost_merged found areOpen arePair counted
    cases delivery with
    | answered =>
      refine moves (Or.inr rfl) isNext ?_
      have applies : Delivery.answered.Applies := trivial
      rw [trades, if_pos applies, merged, standing]
      simp only [Standing.carried, isLotOf, tail]
      ring
    | refused message =>
      refine moves (Or.inl rfl) isNext ?_
      have withheld : ¬ (Delivery.refused message).Applies := id
      rw [trades, if_neg withheld, standing]
      ring
    | lost message => exact truthful.elim
  · -- the group of another pair
    have isOther : current.pair ≠ pair := by
      rw [samePair, isKey]
      exact isPair
    have sameCost : openCost pair step.after.state.trades = openCost pair before.state.trades := by
      rw [trades]
      split
      · exact openCost_elsewhere found isOther isOther
      · rfl
    have nothing : (rest.map fun stored => stored.row.carries pair).sum = 0 := by
      refine carries_elsewhere fun stored inRest => ?_
      rw [((member stored).mp (List.mem_cons_of_mem _ inRest)).2]
      exact isPair
    refine moves ?_ isNext ?_
    · split
      · exact Or.inr rfl
      · exact Or.inl rfl
    · rw [sameCost, standing]
      split
      · simp only [Standing.carried, isLotOf, tail, nothing]
        ring
      · ring

/-- The rows under some ids are those that were read there, if they are current. -/
theorem filter_current (current : Current trades lot) (areOpen : ∀ stored ∈ lot, stored.row.IsOpen)
    (nodup : lot.Nodup) :
    ((rows trades).filter fun stored => stored.id ∈ lot.map Stored.id ∧ stored.row.IsOpen).Perm
      lot := by
  refine (List.perm_ext_iff_of_nodup ((nodup_rows trades).filter _) nodup).mpr fun stored => ?_
  rw [List.mem_filter, mem_rows, decide_eq_true_eq]
  constructor
  · rintro ⟨found, isId, _⟩
    obtain ⟨read, inLot, sameId⟩ := List.mem_map.mp isId
    have isCurrent := current read inLot
    rw [sameId, found] at isCurrent
    cases stored
    cases read
    cases isCurrent
    cases sameId
    exact inLot
  · intro inLot
    exact ⟨current stored inLot, List.mem_map_of_mem inLot, areOpen stored inLot⟩

/-- The other rows of the group are cancelled. -/
theorem balanced_cancel {swap : Swap} {sold : ℚ} (bound : caller < callers)
    (standing : swapping.phase before caller = .merged swap sold opens primary.id)
    (isLot : primary :: rest ∈ byPair opens)
    (smooth : Smooth pair worth callers ⟨before, caller,
      .cancelOpenTrades (rest.map Stored.id), delivery⟩)
    (balanced : Balanced pair worth callers start before) :
    Balanced pair worth callers start (Step.mk before caller
      (.cancelOpenTrades (rest.map Stored.id)) delivery).after := by
  have known : Snapshot before.state.trades opens := by
    have read := balanced.snapshots caller
    rw [standing] at read
    exact read
  have isLotOf := lotOf_eq known isLot
  simp only [Smooth, standing, isLotOf, List.tail_cons] at smooth
  obtain ⟨key, member⟩ := mem_lot isLot
  set step : Step venue := ⟨before, caller, .cancelOpenTrades (rest.map Stored.id), delivery⟩
    with stepIs
  have isNext : nextStanding (swapping.phase step.before step.caller) step.op step.reply =
      .merging swap sold opens := by
    show nextStanding (swapping.phase before caller) step.op step.reply = _
    rw [standing]
    rfl
  refine balanced_of_move bound balanced isNext ?_ nofun (fun _ => Or.inl ?_) trivial
    (Or.inl (by rw [standing]; rfl))
  · show openCost pair (if delivery.Applies then _ else before.state).trades =
      openCost pair before.state.trades + ((Standing.merging swap sold opens).carried pair worth -
        (swapping.phase before caller).carried pair worth)
    rw [standing]
    simp only [Standing.carried, isLotOf, List.tail_cons]
    by_cases isPair : key = pair
    · obtain ⟨applies, current⟩ := smooth fun stored inLot =>
        ((member stored).mp inLot).2.trans isPair
      have areOpen : ∀ stored ∈ rest, stored.row.IsOpen := fun stored inRest =>
        known.areOpen stored ((member stored).mp (List.mem_cons_of_mem _ inRest)).1
      have cancelled := (filter_current current areOpen (nodup_lot known.nodup isLot).of_cons).map
        fun stored => stored.row.carries pair
      rw [if_pos applies, ← cancelled.sum_eq]
      have cost := openCost_cancelWhere pair (fun stored =>
        stored.id ∈ rest.map Stored.id ∧ stored.row.IsOpen) before.state.trades
      refine Eq.trans cost ?_
      ring
    · have nothing : (rest.map fun stored => stored.row.carries pair).sum = 0 := by
        refine carries_elsewhere fun stored inRest => ?_
        rw [((member stored).mp (List.mem_cons_of_mem _ inRest)).2]
        exact isPair
      have idle : ∀ stored ∈ rows before.state.trades,
          decide (stored.id ∈ rest.map Stored.id ∧ stored.row.IsOpen) →
            stored.row.carries pair = 0 := by
        intro stored inRows holds
        obtain ⟨read, inRest, sameId⟩ := List.mem_map.mp (of_decide_eq_true holds).1
        obtain ⟨inOpens, isKey⟩ := (member read).mp (List.mem_cons_of_mem _ inRest)
        obtain ⟨current, found, samePair⟩ := known.samePairs read inOpens
        rw [sameId, mem_rows.mp inRows] at found
        cases found
        exact if_neg fun both => isPair ((samePair.trans isKey).symm.trans both.1)
      rw [nothing, add_zero, sub_self, add_zero]
      split
      · exact openCost_cancelWhere_idle idle
      · rfl
  · rw [standing]
    trivial

theorem balanced_keeps : swapping.Keeps
    (fun step => step.caller < callers ∧ Smooth pair worth callers step)
    (Balanced pair worth callers start) := by
  rintro ⟨before, caller, op, fate⟩ permitted ⟨bound, smooth⟩ balanced
  by_cases reads : Reads op
  · exact balanced_read bound reads smooth balanced
  have permits : PermitsSwap (swapping.phase before caller) op := permitted
  generalize isStanding : swapping.phase before caller = standing at permits
  cases op with
  | updateTrade id patch =>
    cases standing with
    | found looked swap row =>
      cases row with
      | none => exact permits.elim
      | some stored => exact balanced_book bound isStanding permits smooth balanced
    | merging swap sold opens =>
      obtain ⟨primary, extra, rest, isLot, rfl, rfl⟩ := permits
      exact balanced_merge bound isStanding isLot smooth balanced
    | _ => exact permits.elim
  | createTrade row =>
    cases standing with
    | found looked swap found =>
      cases found with
      | none => exact balanced_create bound isStanding permits smooth balanced
      | some stored => exact permits.elim
    | _ => exact permits.elim
  | cancelOpenTrades ids =>
    cases standing with
    | merged swap sold opens id =>
      obtain ⟨primary, extra, rest, isLot, rfl, rfl⟩ := permits
      exact balanced_cancel bound isStanding isLot smooth balanced
    | _ => exact permits.elim
  | cancelOtherTrades other kept =>
    obtain ⟨swap, sold, rfl⟩ := permits
    exact balanced_cancelOthers bound isStanding smooth balanced
  | _ => exact (reads trivial).elim

end Steps

/-! ### The calls -/

/-- The standings in which a call can end. -/
def Standing.AtRest : Standing → Prop
  | .idle => True
  | .booked _ _ => True
  | .merging _ _ _ => True
  | .stranded _ => True
  | _ => False

section Calls

variable {Value : Type} {standing : Standing} {swap : Swap} {sold : ℚ}

theorem neutral_preparing {op : Op} (preparing : Preparing op) : swapping.Neutral .idle op := by
  cases op with
  | submitJupiterExecute signed => exact preparing.elim
  | updateTrade id patch => exact preparing.elim
  | createTrade row => exact preparing.elim
  | cancelOpenTrades ids => exact preparing.elim
  | cancelOtherTrades pair kept => exact preparing.elim
  | enterBuy pair => exact ⟨trivial, fun | .ok true => rfl | .ok false => rfl | .error _ => rfl⟩
  | _ => exact ⟨trivial, fun reply => by cases reply <;> rfl⟩

theorem follows_submitSwap (signed : SignedTransaction) :
    swapping.Follows .idle (submitSwap signed)
      (ends (fun _ reached => reached = .executed signed.swap) fun reached => reached = .idle) := by
  refine ⟨rfl, fun reply => ?_⟩
  cases reply with
  | error message => exact rfl
  | ok answer =>
    show swapping.Follows (if wasExecuted answer then .executed signed.swap else .idle)
      (ofExcept (executedSignature answer)) _
    unfold wasExecuted
    cases executedSignature answer with
    | ok signature => exact rfl
    | error message => exact rfl

theorem follows_reconcileFillPriceWithMark (mint : String) (fillPrice : ℚ) :
    swapping.Follows (.executed swap) (reconcileFillPriceWithMark mint fillPrice)
      (ends (fun _ reached => reached = .executed swap) fun _ => False) := by
  unfold reconcileFillPriceWithMark
  split
  · exact rfl
  · refine Follows.recover (Follows.neutral ?_) fun _ _ same => same
    have fetched : (await (.fetchJupiterPrice mint)).Only (swapping.Neutral (.executed swap)) :=
      only_perform ⟨trivial, fun reply => by cases reply <;> rfl⟩
    exact only_bind fetched fun _ => trivial

theorem follows_leaveBuy (pair : String) (reached : Standing) :
    swapping.Follows reached (await (.leaveBuy pair))
      (ends (fun _ later => later = reached) fun later => later = reached) :=
  Follows.perform trivial (fun _ => rfl) fun _ => rfl

/-- A group of the rows that were read is merged or left alone. -/
theorem follows_mergeLot {opens lot : List (Stored Trade)} (isLot : lot ∈ byPair opens) :
    swapping.Follows (.merging swap sold opens) (mergeLot lot)
      (ends (fun _ reached => reached = .merging swap sold opens) Standing.AtRest) := by
  cases lot with
  | nil => exact rfl
  | cons primary others =>
    cases others with
    | nil => exact rfl
    | cons extra rest =>
      refine Follows.moves (fun _ => .merged swap sold opens primary.id)
        ⟨primary, extra, rest, isLot, rfl, rfl⟩ (fun _ => rfl) (fun _ => trivial) fun _ => ?_
      exact Follows.perform ⟨primary, extra, rest, isLot, rfl, rfl⟩ (fun _ => rfl) fun _ => trivial

theorem follows_tryMerge : swapping.Follows (.booked swap sold) tryMerge
    (ends (fun _ => Standing.AtRest) Standing.AtRest) := by
  have merged : swapping.Follows (.booked swap sold) mergeDuplicateJupiterOpenTrades
      (ends (fun _ => Standing.AtRest) Standing.AtRest) := by
    refine Follows.moves (fun _ => .booked swap sold) trivial (fun _ => rfl) (fun _ => trivial)
      fun _ => ?_
    refine Follows.moves (.merging swap sold) trivial (fun _ => rfl) (fun _ => trivial)
      fun opens => ?_
    split
    · exact trivial
    · refine Follows.bind (Follows.forEach fun lot isLot => follows_mergeLot isLot) ?_
      rintro _ reached rfl
      exact trivial
  exact merged.recover fun _ _ atRest => atRest

theorem follows_findOpenTrade (pair : String) :
    swapping.Follows (.executed swap) (await (.findOpenTrade pair))
      (ends (fun row reached => reached = .found pair swap row) Standing.AtRest) :=
  Follows.perform trivial (fun _ => rfl) fun _ => trivial

theorem follows_book {looked : String} {stored : Stored Trade} {patch : TradePatch} (price : ℚ)
    (isPatch : patch = bookingPatch swap price stored.row) :
    swapping.Follows (.found looked swap (some stored)) (await (.updateTrade stored.id patch))
      (ends (fun _ reached => reached = .booked swap (swap.soldCost stored.row))
        Standing.AtRest) :=
  Follows.perform ⟨rfl, price, isPatch⟩ (fun _ => rfl) fun _ => trivial

theorem follows_create (looked : String) (price : ℚ) :
    swapping.Follows (.found looked swap none) (await (.createTrade (newTrade looked swap price)))
      (ends (fun _ reached => reached = .booked swap 0) Standing.AtRest) :=
  Follows.perform ⟨price, rfl⟩ (fun _ => rfl) fun _ => trivial

theorem follows_bookBuy (pair : String) (price : ℚ) (isBuy : swap.side = .buy) :
    swapping.Follows (.executed swap) (bookBuy pair swap price)
      (ends (fun _ => Standing.AtRest) Standing.AtRest) := by
  refine (follows_findOpenTrade pair).bind ?_
  rintro row reached rfl
  cases row with
  | some existing =>
    have isPatch : buyPatch existing.row swap.alloc price =
        bookingPatch swap price existing.row := by
      unfold bookingPatch
      rw [isBuy]
    refine (follows_book price isPatch).bind ?_
    rintro updated reached rfl
    exact follows_tryMerge.bind fun _ _ atRest => atRest
  | none =>
    refine (follows_create pair price).bind ?_
    rintro created reached rfl
    exact trivial

theorem follows_bookSell (pair : String) (price : ℚ) (isSell : swap.side = .sell) :
    swapping.Follows (.executed swap) (bookSell pair swap price)
      (ends (fun _ => Standing.AtRest) Standing.AtRest) := by
  refine (follows_findOpenTrade pair).bind ?_
  rintro row reached rfl
  cases row with
  | some openPos =>
    have isPatch : sellPatch openPos.row swap price = bookingPatch swap price openPos.row := by
      unfold bookingPatch
      rw [isSell]
    refine (follows_book price isPatch).bind ?_
    rintro updated reached rfl
    split
    · dsimp only
      split
      · exact trivial
      · exact trivial
    · exact Follows.moves _ ⟨_, _, rfl⟩ (fun _ => rfl) (fun _ => trivial) fun _ => trivial
  | none =>
    refine (follows_create pair price).bind ?_
    rintro created reached rfl
    exact trivial

theorem follows_guardBuy (pair : String) :
    swapping.Follows (.executed swap) (guardBuy pair)
      (ends (fun _ reached => reached = .executed swap) Standing.AtRest) := by
  refine Follows.moves (fun entered => if entered then .executed swap else .stranded swap) trivial
    (fun entered => by cases entered <;> rfl) (fun _ => trivial) fun entered => ?_
  cases entered with
  | true => exact rfl
  | false => exact trivial

theorem follows_bookSwap (pair : String) (price : ℚ) :
    swapping.Follows (.executed swap) (book pair swap price)
      (ends (fun _ => Standing.AtRest) Standing.AtRest) := by
  unfold book
  split
  · next isBuy =>
    refine (follows_guardBuy pair).bind ?_
    rintro _ reached rfl
    exact Follows.andFinally (follows_bookBuy pair price isBuy) (follows_leaveBuy pair)
      fun _ _ atRest => atRest
  · next isSell => exact follows_bookSell pair price isSell

/-- A call submits its swap once and writes rows only to book it and to merge. -/
theorem follows_executeJupiterSwap (settings : Settings) (request : SwapRequest)
    (options : ExecuteOptions) :
    swapping.Follows .idle (executeJupiterSwap settings request options)
      (ends (fun _ => Standing.AtRest) Standing.AtRest) := by
  have prepared := Follows.neutral
    (only_prepareSwap.mono fun _ => neutral_preparing :
      (prepareSwap settings request options).Only (swapping.Neutral .idle))
  have atRest : ∀ reached, reached = .idle → Standing.AtRest reached := by
    rintro reached rfl
    trivial
  refine (prepared.throwing atRest).bind ?_
  rintro prepared reached rfl
  refine ((follows_submitSwap prepared.signed).throwing atRest).bind ?_
  rintro signature reached rfl
  refine Follows.bind ((follows_reconcileFillPriceWithMark _ _).throwing fun _ => False.elim) ?_
  rintro price reached rfl
  refine Follows.moves (fun _ => .executed prepared.signed.swap) trivial (fun _ => rfl)
    (fun _ => trivial) fun _ => ?_
  exact (follows_bookSwap _ price).bind fun _ _ rests => rests

end Calls

/-! ### Every swap is booked -/

/-- Concurrent calls of one user on a book. -/
def swapSystem (settings : Settings) (start : Desk)
    (requests : List (SwapRequest × ExecuteOptions)) : System venue SwapResult where
  moment := ⟨start, []⟩
  calls := requests.map fun request => executeJupiterSwap settings request.1 request.2

def AllEnded (system : System venue SwapResult) : Prop :=
  ∀ caller < system.calls.length, (system.calls[caller]?.bind result?).isSome

theorem balanced_start (pair : String) (worth : String → ℚ) (callers : ℕ) (start : Desk) :
    Balanced pair worth callers start ⟨start, []⟩ where
  cost := by
    have nothing : ∑ caller ∈ Finset.range callers,
        (swapping.phase ⟨start, []⟩ caller).carried pair worth = 0 :=
      Finset.sum_eq_zero fun _ _ => rfl
    rw [nothing, add_zero]
  noneStranded _ _ := nofun
  written _ impossible := impossible.elim
  sought _ := trivial
  snapshots _ := snapshot_nil _

theorem carried_of_atRest {pair : String} {worth : String → ℚ} {standing : Standing}
    (atRest : standing.AtRest) (booked : ∀ swap, standing ≠ .stranded swap) :
    standing.carried pair worth = standing.bought worth - standing.sold := by
  cases standing with
  | idle => exact (sub_zero _).symm
  | booked swap sold => rfl
  | merging swap sold opens => rfl
  | stranded swap => exact absurd rfl (booked swap)
  | _ => exact atRest.elim

theorem written_of_atRest {standing : Standing} (atRest : standing.AtRest)
    (booked : ∀ swap, standing ≠ .stranded swap) (executed : standing.swap?.isSome) :
    standing.Written := by
  cases standing with
  | idle => cases executed
  | stranded swap => exact absurd rfl (booked swap)
  | booked swap sold => trivial
  | merging swap sold opens => trivial
  | _ => exact atRest.elim

/-- In every run of calls whose steps are smooth, every executed swap ends up in the book. -/
theorem everySwapBooked_of_smooth (settings : Settings) (pair : String) (worth : String → ℚ)
    (start : Desk) (requests : List (SwapRequest × ExecuteOptions)) (turns : List (Turn venue))
    (smooth : ∀ step ∈ (swapSystem settings start requests).steps turns,
      Smooth pair worth requests.length step)
    (ended : AllEnded ((swapSystem settings start requests).run turns)) :
    EverySwapBooked pair worth start requests.length
      ((swapSystem settings start requests).run turns) := by
  set system := swapSystem settings start requests with systemIs
  have callers : system.calls.length = requests.length := List.length_map _
  have allowed : ∀ step ∈ system.steps turns,
      step.caller < requests.length ∧ Smooth pair worth requests.length step :=
    fun step member => ⟨by rw [← callers]; exact System.caller_lt_of_mem_steps member,
      smooth step member⟩
  obtain ⟨holds, _⟩ := Protocol.sound balanced_keeps (balanced_start pair worth _ start)
    (System.each_call fun _ request => follows_executeJupiterSwap settings request.1 request.2)
    turns allowed
  have balanced := holds.invariant
  have atRest : ∀ caller < requests.length,
      (swapping.phase (system.run turns).moment caller).AtRest := by
    intro caller bound
    rw [← callers, ← System.length_run system turns] at bound
    obtain ⟨result, isResult⟩ := Option.isSome_iff_exists.mp (ended caller bound)
    have rests := holds.ended isResult
    cases result <;> exact rests
  refine ⟨?_, fun caller failure hasFailed executed => ?_⟩
  · rw [balanced.cost]
    congr 1
    refine Finset.sum_congr rfl fun caller member => ?_
    exact carried_of_atRest (atRest caller (Finset.mem_range.mp member))
      (balanced.noneStranded caller)
  · exact balanced.written caller
      (written_of_atRest (holds.ended hasFailed) (balanced.noneStranded caller) executed)

/-! ### Two buys -/

section Decidable

variable (pair : String) (worth : String → ℚ) (callers : ℕ)

instance (standing : Standing) : Decidable standing.Unbooked := by
  cases standing <;> unfold Standing.Unbooked <;> infer_instance

instance (standing : Standing) : Decidable standing.PendingBuy := by
  cases standing <;> unfold Standing.PendingBuy <;> infer_instance

instance (swap : Swap) (row : Trade) : Decidable (swap.Fits worth row) := by
  unfold Swap.Fits
  split <;> infer_instance

instance (trades : List Trade) (lot : List (Stored Trade)) : Decidable (Current trades lot) := by
  unfold Current
  infer_instance

instance (swap : Swap) (others : ℕ → Standing) (caller : ℕ) :
    Decidable (CreatesSafely worth swap callers others caller) := by
  unfold CreatesSafely
  split <;> infer_instance

instance (step : Step venue) : Decidable (Smooth pair worth callers step) := by
  unfold Smooth
  dsimp only
  split
  all_goals try infer_instance
  all_goals split <;> infer_instance

instance (event : Event venue) : Decidable (WritesRow event) := by
  obtain ⟨caller, op, delivery, reply⟩ := event
  rcases op with _ | _
  case updateTrade id patch => exact inferInstanceAs (Decidable (Delivery.Applies delivery))
  case createTrade row => exact inferInstanceAs (Decidable (Delivery.Applies delivery))
  all_goals exact inferInstanceAs (Decidable False)

instance (system : System venue SwapResult) : Decidable (AllEnded system) := by
  unfold AllEnded
  infer_instance

end Decidable

def LooksFor (pair : String) : Op → Prop
  | .findOpenTrade looked => looked = pair
  | .enterBuy bought => bought = pair
  | _ => True

instance (pair : String) (op : Op) : Decidable (LooksFor pair op) := by
  cases op <;> unfold LooksFor <;> infer_instance

/-- A buy for a hundred USDC. -/
def wifBuy : SwapRequest × ExecuteOptions :=
  ({ side := .buy, binanceSymbol := "WIFUSDT", amount := 100 }, {})

def twoBuys : System venue SwapResult :=
  swapSystem exampleSettings ⟨[], fun _ => none⟩ [wifBuy, wifBuy]

/-- One buy after the other, the second at twice the price. -/
def inTurn : List (Turn venue) :=
  List.replicate 32 ⟨0, market 1000 1 100000000⟩ ++ List.replicate 32 ⟨1, market 1000 1 50000000⟩

theorem inTurn_smooth : (∀ step ∈ twoBuys.steps inTurn, Smooth "WIF/USDT" (fun _ => 1) 2 step) ∧
    AllEnded (twoBuys.run inTurn) := by
  decide +kernel

/-- Two buys in turn are both booked. -/
theorem everySwapBooked_inTurn : EverySwapBooked "WIF/USDT" (fun _ => 1) ⟨[], fun _ => none⟩ 2
    (twoBuys.run inTurn) :=
  everySwapBooked_of_smooth exampleSettings _ _ _ [wifBuy, wifBuy] inTurn inTurn_smooth.1
    inTurn_smooth.2

/-- The second buy runs while the first is between its guard and its row. -/
def overlapping : List (Turn venue) :=
  List.replicate 14 ⟨0, market 1000 1 100000000⟩ ++
    List.replicate 32 ⟨1, market 1000 1 100000000⟩ ++
    List.replicate 32 ⟨0, market 1000 1 100000000⟩

/-- The guard turns the second buy away after its swap has executed. -/
theorem not_everySwapBooked : ¬ ∀ turns : List (Turn venue),
    (∀ step ∈ twoBuys.steps turns, LooksFor "WIF/USDT" step.op) → AllEnded (twoBuys.run turns) →
      EverySwapBooked "WIF/USDT" (fun _ => 1) ⟨[], fun _ => none⟩ 2 (twoBuys.run turns) := by
  intro always
  obtain ⟨onPair, ended, turnedAway, executed, unwritten⟩ :
      (∀ step ∈ twoBuys.steps overlapping, LooksFor "WIF/USDT" step.op) ∧
      AllEnded (twoBuys.run overlapping) ∧
      (twoBuys.run overlapping).calls[1]?.bind result? = some (.error
        "A buy for this token is already in progress — wait a few seconds and refresh.") ∧
      (swapping.phase (twoBuys.run overlapping).moment 1).swap?.isSome ∧
      ∀ event ∈ (twoBuys.run overlapping).moment.own 1, ¬ WritesRow event := by
    decide +kernel
  have booked := always overlapping onPair ended
  obtain ⟨event, member, writes⟩ := booked.noneLost 1 _ turnedAway executed
  exact unwritten event member writes

end GdslExchange.Jupiter
