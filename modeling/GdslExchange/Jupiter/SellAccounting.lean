/-
This file follows a lot through any sequence of skims and sells, and settles
when its row accounts for them.

A skim books the slice that was asked for; every other sell books the whole
allocation, whatever quantity it sold. The row accounts for the sells at every
point exactly when each of them books the slice it sold, up to the dust that a
lot may leave behind.
-/

import GdslExchange.Async.Contract
import GdslExchange.Jupiter.Exits

namespace GdslExchange.Jupiter

open Async Async.Program Async.Contract
open Numeric

/-! ### Sells -/

/-- The ways out of a lot. -/
inductive Exit where
  | skim
  | watcherSkim (prefs : ExitSettings)
  | sell (fraction : Fraction)

def watchPair (settings : Settings) (prefs : ExitSettings) (baseSymbol : String) : Call Unit := do
  let stillOpen ← await (.findOpenTradesOf (pairOf baseSymbol))
  forEach (fun stored => skimOpenTrade settings prefs baseSymbol stored.row) stillOpen

def Exit.call (settings : Settings) (symbol : String) : Exit → Call Unit
  | skim => do
    let _ ← skimJupiterPositionProfit settings symbol
    pure ()
  | watcherSkim prefs => watchPair settings prefs (baseOf symbol)
  | sell fraction => do
    let _ ← sellJupiterOpenPosition settings symbol fraction
    pure ()

/-- A sell as the exchange executed it: the quantity that left the wallet, and its price. -/
structure Sale where
  quantity : ℚ
  price : ℚ

/-- The price a sell is booked at: the price of the fill, unless the mark replaces it. -/
def bookedPrice (swap : Swap) (mark : Option ℚ) : ℚ :=
  if swap.price ≤ 0 then swap.price else clampToMark swap.price mark

/-- What the log of a call says of its sell: the executed swap, the mark it was checked against,
and whether the lot was dropped as stale. -/
structure SellAccount where
  swap : Option Swap := none
  mark : Option ℚ := none
  dropped : Bool := false
deriving DecidableEq

def SellAccount.enter (id : ℕ) (account : SellAccount) : Event venue → SellAccount
  | ⟨_, .submitJupiterExecute signed, _, .ok reply⟩ =>
    if wasExecuted reply then { account with swap := some signed.swap } else account
  | ⟨_, .fetchJupiterPrice _, _, .ok mark⟩ =>
    if account.swap.isSome then { account with mark := mark } else account
  | ⟨_, .cancelOpenTrades ids, _, .ok _⟩ =>
    if id ∈ ids then { account with dropped := true } else account
  | _ => account

def sellAccount (id : ℕ) (moment : Moment venue) : SellAccount :=
  moment.log.foldr (fun event account => account.enter id event) {}

def SellAccount.sale (account : SellAccount) : Option Sale :=
  account.swap.map fun swap => ⟨swap.inAmount, bookedPrice swap account.mark⟩

/-! ### Histories -/

/-- One call that has run from its beginning to its end. -/
structure Deal where
  exit : Exit
  moment : Moment venue

/-- The steps of a history: the book answers, and the pair's rows are the ones looked for. -/
def Undisturbed (pair : String) (step : Step venue) : Prop :=
  match step.op, step.fate with
  | .ensureJupiterStrategyId, delivery => delivery = .answered
  | .findOpenTrade looked, delivery => delivery = .answered ∧ looked = pair
  | .findOpenTrades, delivery => delivery = .answered
  | .findOpenTradesOf looked, delivery => delivery = .answered ∧ looked = pair
  | .updateTrade _ _, delivery => delivery = .answered
  | .cancelOpenTrades _, delivery => delivery = .answered
  | .cancelOtherTrades _ _, delivery => delivery = .answered
  | .createTrade _, delivery => delivery = .answered
  | _, _ => True

instance (pair : String) (step : Step venue) : Decidable (Undisturbed pair step) := by
  obtain ⟨before, caller, op, fate⟩ := step
  cases op <;> unfold Undisturbed <;> infer_instance

def Deal.RunsFrom (settings : Settings) (symbol pair : String) (desk : Desk) (deal : Deal) :
    Prop :=
  ∃ (system : System venue Unit) (turns : List (Turn venue)),
    system = .solo desk (deal.exit.call settings symbol) ∧
      (system.run turns).moment = deal.moment ∧
      ((system.run turns).calls[0]?.bind result?).isSome ∧
      ∀ step ∈ system.steps turns, Undisturbed pair step

/-- The desk after a list of deals, the latest first. -/
def deskAfter (start : Desk) : List Deal → Desk
  | [] => start
  | deal :: _ => deal.moment.state

def History (settings : Settings) (symbol pair : String) (start : Desk) : List Deal → Prop
  | [] => True
  | deal :: earlier => deal.RunsFrom settings symbol pair (deskAfter start earlier) ∧
      History settings symbol pair start earlier

def salesOf (id : ℕ) (deals : List Deal) : List Sale :=
  deals.filterMap fun deal => (sellAccount id deal.moment).sale

/-! ### The property and the condition -/

/-- A lot as it is before the first sell. -/
structure Lot where
  pair : String
  id : ℕ
  row : Trade
  isOpen : row.IsOpen
  priced : 0 < row.entryPrice
  funded : 0 < row.alloc

namespace Lot

/-- The quantity the lot still holds after some sales. -/
def remaining (lot : Lot) (sales : List Sale) : ℚ :=
  lot.row.alloc / lot.row.entryPrice - (sales.map Sale.quantity).sum

def remainingCost (lot : Lot) (sales : List Sale) : ℚ := lot.remaining sales * lot.row.entryPrice

def slice (lot : Lot) (sale : Sale) : ℚ := sale.quantity * lot.row.entryPrice

/-- The profit that a sale realizes on the cost slice of the quantity sold. -/
def profit (lot : Lot) (sale : Sale) : ℚ :=
  roundTripRealizedPnl (lot.slice sale) lot.row.entryPrice sale.price

/-- The row has the profit of the sales, and while more than dust is unsold an OPEN row of the
pair carries the cost of what is left. -/
structure Accounts (lot : Lot) (sales : List Sale) (desk : Desk) : Prop where
  pnl : ∃ row, desk.trades[lot.id]? = some row ∧
    row.banked = lot.row.banked + (sales.map lot.profit).sum
  cost : lot.remainingCost sales > dustAlloc →
    ∃ stored ∈ openRowsOf lot.pair desk.trades, stored.row.alloc = lot.remainingCost sales

end Lot

/-- The cost that a sell books against a row. -/
def Trade.booked (row : Trade) (swap : Swap) : ℚ :=
  if row.TakesSlice swap then swap.asked * row.entryPrice else row.alloc

/-- A sell books the slice it sold: the booked cost and the cost sold give the same profit, and
if more than dust is left then the sell was a skim that sold what it asked for. -/
def Lot.Books (lot : Lot) (sales : List Sale) (row : Trade) (swap : Swap) (sale : Sale) : Prop :=
  roundTripRealizedPnl (row.booked swap) lot.row.entryPrice sale.price = lot.profit sale ∧
    (lot.remainingCost (sale :: sales) > dustAlloc →
      row.TakesSlice swap ∧ swap.asked = sale.quantity)

/-- The sell of a call, if it executed one, books what it sold, and the lot is only dropped as
stale when no more than dust is left. -/
def Lot.Fits (lot : Lot) (sales : List Sale) (before : Desk) (account : SellAccount) : Prop :=
  (∀ swap sale row, account.swap = some swap → account.sale = some sale →
    before.trades[lot.id]? = some row → lot.Books sales row swap sale) ∧
  (account.dropped → lot.remainingCost sales ≤ dustAlloc)

/-- The lot's row accounts for the sells at every point of the history. -/
def AccountsThroughout (lot : Lot) (start : Desk) (deals : List Deal) : Prop :=
  ∀ earlier, earlier <:+ deals → lot.Accounts (salesOf lot.id earlier) (deskAfter start earlier)

/-- Every call of the history fits the lot it found. -/
def FitsThroughout (lot : Lot) (start : Desk) (deals : List Deal) : Prop :=
  ∀ deal earlier, deal :: earlier <:+ deals →
    lot.Fits (salesOf lot.id earlier) (deskAfter start earlier) (sellAccount lot.id deal.moment)

/-! ### Awaits -/

/-- The contract of an exit that no other call disturbs. -/
abbrev selling (pair : String) : Contract venue :=
  alone (Undisturbed pair) (fun _ => True) fun _ => True

/-- What the log says, and the lot's row. -/
structure At (pair : String) (id : ℕ) (account : SellAccount) (row : Trade)
    (moment : Moment venue) : Prop where
  account : sellAccount id moment = account
  lot : LotIs pair id row moment.state.trades

/-- An operation that writes no row and is no part of the account. -/
def Silent (account : SellAccount) : Op → Prop
  | .submitJupiterExecute _ => False
  | .updateTrade _ _ => False
  | .cancelOpenTrades _ => False
  | .cancelOtherTrades _ _ => False
  | .createTrade _ => False
  | .fetchJupiterPrice _ => account.swap = none
  | _ => True

theorem silent_of_preparing (op : Op) (preparing : Preparing op) : Silent {} op := by
  cases op <;> trivial

section Awaits

variable {pair : String} {id : ℕ} {row : Trade} {account : SellAccount} {Value : Type}

theorem sellAccount_after (step : Step venue) :
    sellAccount id step.after = (sellAccount id step.before).enter id step.event := rfl

variable {step : Step venue}

theorem trades_after_silent (silent : Silent account step.op) :
    step.after.state.trades = step.before.state.trades := by
  obtain ⟨before, caller, op, fate⟩ := step
  cases op with
  | enterBuy pair =>
    simp only [Step.after, perform]
    split <;> rfl
  | _ => first | rfl | exact silent.elim

theorem account_after_silent (silent : Silent (sellAccount id step.before) step.op) :
    sellAccount id step.after = sellAccount id step.before := by
  rw [sellAccount_after]
  obtain ⟨before, caller, op, fate⟩ := step
  cases op with
  | fetchJupiterPrice mint =>
    have unsold : (sellAccount id before).swap = none := silent
    cases fate with
    | ok mark =>
      show (if (sellAccount id before).swap.isSome then _ else _) = _
      rw [unsold]
      rfl
    | error message => rfl
  | _ => first | rfl | exact silent.elim

theorem At.afterSilent (holds : At pair id account row step.before)
    (silent : Silent account step.op) : At pair id account row step.after where
  account := by
    rw [account_after_silent (by rw [holds.account]; exact silent)]
    exact holds.account
  lot := by
    rw [trades_after_silent silent]
    exact holds.lot

theorem silent_program {program : Call Value} (only : program.Only (Silent account)) :
    (selling pair).Triple 0 (At pair id account row) program
      (outcome (fun _ => At pair id account row) fun _ => At pair id account row) := by
  refine Triple.only (fun op silent => Triple.alone fun before fate holds _ _ => ?_) only
  refine ⟨trivial, trivial, ?_⟩
  rw [outcome_const]
  exact holds.afterSilent silent

theorem answered_write {op : Op} {after : Trade} {next : SellAccount}
    (writes : ∀ before fate, At pair id account row before →
      Undisturbed pair ⟨before, 0, op, fate⟩ →
      (∃ result, (Step.mk before 0 op fate).reply = .ok result) ∧
        At pair id next after (Step.mk before 0 op fate).after) :
    (selling pair).Triple 0 (At pair id account row) (await op)
      (outcome (fun _ => At pair id next after) fun _ _ => False) := by
  refine Triple.alone fun before fate holds _ undisturbed => ⟨trivial, trivial, ?_⟩
  obtain ⟨⟨result, answered⟩, reached⟩ := writes before fate holds undisturbed
  rw [answered]
  exact reached

theorem ensureStrategy_answered :
    (selling pair).Triple 0 (At pair id account row) (await .ensureJupiterStrategyId)
      (outcome (fun _ => At pair id account row) fun _ _ => False) := by
  refine answered_write fun before delivery holds undisturbed => ⟨⟨(), ?_⟩, holds.afterSilent trivial⟩
  have answered : delivery = .answered := undisturbed
  rw [answered]
  rfl

variable {looked : String}

theorem findOpenTrade_answered :
    (selling pair).Triple 0 (At pair id account row) (await (.findOpenTrade looked))
      (outcome (fun found moment => (looked = pair ∧
          found = if row.IsOpen then some ⟨id, row⟩ else none) ∧ At pair id account row moment)
        fun _ _ => False) := by
  refine Triple.alone fun before delivery holds _ undisturbed => ⟨trivial, trivial, ?_⟩
  obtain ⟨answered, isPair⟩ : delivery = .answered ∧ looked = pair := undisturbed
  rw [answered, isPair]
  refine ⟨⟨rfl, ?_⟩, holds.afterSilent trivial⟩
  show (openRowsOf pair before.state.trades).head? = _
  rw [holds.lot.openRowsOf]
  split <;> rfl

theorem findOpenTradesOf_answered :
    (selling pair).Triple 0 (At pair id account row) (await (.findOpenTradesOf looked))
      (outcome (fun found moment => found = (if row.IsOpen then [⟨id, row⟩] else []) ∧
          At pair id account row moment) fun _ _ => False) := by
  refine Triple.alone fun before delivery holds _ undisturbed => ⟨trivial, trivial, ?_⟩
  obtain ⟨answered, isPair⟩ : delivery = .answered ∧ looked = pair := undisturbed
  rw [answered, isPair]
  refine ⟨?_, holds.afterSilent trivial⟩
  show openRowsOf pair before.state.trades = _
  exact holds.lot.openRowsOf

theorem updateLot_answered (patch : TradePatch) :
    (selling pair).Triple 0 (At pair id account row) (await (.updateTrade id patch))
      (outcome (fun _ => At pair id account (patch.apply row)) fun _ _ => False) := by
  refine answered_write fun before delivery holds undisturbed => ?_
  have answered : delivery = .answered := undisturbed
  rw [answered]
  have written : perform (.updateTrade id patch) .answered before.state =
      (before.state.store (before.state.trades.set id (patch.apply row)),
        .ok ⟨id, patch.apply row⟩) := by
    simp only [perform, holds.lot.found]
    rfl
  refine ⟨⟨_, congrArg Prod.snd written⟩, holds.account, ?_⟩
  show LotIs pair id _ (perform (.updateTrade id patch) .answered before.state).1.trades
  rw [written]
  exact holds.lot.setSelf patch

theorem cancelOthers_answered :
    (selling pair).Triple 0 (At pair id account row) (await (.cancelOtherTrades pair id))
      (outcome (fun _ => At pair id account row) fun _ _ => False) := by
  refine answered_write fun before delivery holds undisturbed => ?_
  have answered : delivery = .answered := undisturbed
  rw [answered]
  refine ⟨⟨(), rfl⟩, holds.account, ?_⟩
  have kept := holds.lot.cancelWhere fun stored =>
    stored.id ≠ id ∧ stored.row.pair = pair ∧ stored.row.IsOpen
  rw [if_neg (by simp)] at kept
  exact kept

theorem dropLot_answered (isOpen : row.IsOpen) :
    (selling pair).Triple 0 (At pair id {} row) (await (.cancelOpenTrades [id]))
      (outcome (fun _ => At pair id { dropped := true } row.cancel) fun _ _ => False) := by
  refine answered_write fun before delivery holds undisturbed => ?_
  have answered : delivery = .answered := undisturbed
  rw [answered]
  refine ⟨⟨(), rfl⟩, ?_, ?_⟩
  · rw [sellAccount_after, holds.account]
    show (if id ∈ [id] then _ else _) = _
    rw [if_pos List.mem_cons_self]
  · have cancelled := holds.lot.cancelWhere fun stored =>
      stored.id ∈ [id] ∧ stored.row.IsOpen
    rw [if_pos (by simp [isOpen])] at cancelled
    exact cancelled

/-! ### The merge -/

/-- The lot as it was found, and a list of rows under whose ids the same pairs still stand. -/
def Merging (pair : String) (id : ℕ) (row : Trade) (opens : List (Stored Trade))
    (moment : Moment venue) : Prop :=
  At pair id {} row moment ∧ SamePairs moment.state.trades opens

variable {opens : List (Stored Trade)}

theorem Merging.elsewhere {moment : Moment venue} (holds : Merging pair id row opens moment)
    {stored : Stored Trade} (member : stored ∈ opens) (isOther : stored.row.pair ≠ pair) :
    stored.id ≠ id := by
  intro sameId
  obtain ⟨current, found, samePair⟩ := holds.2 stored member
  rw [sameId, holds.1.lot.found] at found
  cases found
  exact isOther (samePair.symm.trans holds.1.lot.isPair)

theorem updateOther_merging {stored : Stored Trade} (member : stored ∈ opens)
    (isOther : stored.row.pair ≠ pair) (patch : TradePatch) :
    (selling pair).Triple 0 (Merging pair id row opens) (await (.updateTrade stored.id patch))
      (outcome (fun _ => Merging pair id row opens) fun _ => Merging pair id row opens) := by
  refine Triple.alone fun before delivery holds _ undisturbed => ⟨trivial, trivial, ?_⟩
  have answered : delivery = .answered := undisturbed
  rw [answered]
  obtain ⟨current, found, samePair⟩ := holds.2 stored member
  have written : perform (.updateTrade stored.id patch) .answered before.state =
      (before.state.store (before.state.trades.set stored.id (patch.apply current)),
        .ok ⟨stored.id, patch.apply current⟩) := by
    simp only [perform, found]
    rfl
  set step : Step venue := ⟨before, 0, .updateTrade stored.id patch, .answered⟩ with stepIs
  have reply : step.reply = .ok ⟨stored.id, patch.apply current⟩ := congrArg Prod.snd written
  have trades : step.after.state.trades =
      before.state.trades.set stored.id (patch.apply current) :=
    congrArg (fun written => written.1.trades) written
  have reached : Merging pair id row opens step.after := by
    refine ⟨⟨holds.1.account, ?_⟩, ?_⟩
    · rw [trades]
      refine holds.1.lot.setOther ?_ (holds.elsewhere member isOther)
      rw [pair_apply, samePair]
      exact isOther
    · rw [trades]
      exact holds.2.set found patch
  rw [reply]
  exact reached

theorem cancelOthers_merging {ids : List ℕ}
    (elsewhere : ∀ moment, Merging pair id row opens moment → id ∉ ids) :
    (selling pair).Triple 0 (Merging pair id row opens) (await (.cancelOpenTrades ids))
      (outcome (fun _ => Merging pair id row opens) fun _ => Merging pair id row opens) := by
  refine Triple.alone fun before delivery holds _ undisturbed => ⟨trivial, trivial, ?_⟩
  have answered : delivery = .answered := undisturbed
  rw [answered]
  have notLot : id ∉ ids := elsewhere before holds
  refine ⟨⟨?_, ?_⟩, holds.2.cancelWhere fun stored => stored.id ∈ ids ∧ stored.row.IsOpen⟩
  · rw [sellAccount_after, holds.1.account]
    show (if id ∈ ids then _ else _) = _
    rw [if_neg notLot]
  · have kept := holds.1.lot.cancelWhere fun stored => stored.id ∈ ids ∧ stored.row.IsOpen
    rw [if_neg (by simp [notLot])] at kept
    exact kept

theorem mergeLot_other {lot : List (Stored Trade)} (member : ∀ stored ∈ lot, stored ∈ opens)
    (others : 2 ≤ lot.length → ∀ stored ∈ lot, stored.row.pair ≠ pair) :
    (selling pair).Triple 0 (Merging pair id row opens) (mergeLot lot)
      (outcome (fun _ => Merging pair id row opens) fun _ => Merging pair id row opens) := by
  unfold mergeLot
  split
  · next primary extra rest =>
    have isOther := others (by simp)
    refine Triple.bind (updateOther_merging (member _ List.mem_cons_self)
      (isOther _ List.mem_cons_self) _) fun _ => cancelOthers_merging fun moment holds isExtra => ?_
    obtain ⟨stored, inRest, sameId⟩ := List.mem_map.mp isExtra
    have inLot : stored ∈ primary :: extra :: rest := List.mem_cons_of_mem _ inRest
    exact holds.elsewhere (member stored inLot) (isOther stored inLot) sameId
  · exact Triple.done fun _ holds => holds

theorem mem_byPair {lot : List (Stored Trade)} (member : lot ∈ byPair opens) :
    ∃ key, lot = opens.filter fun stored => stored.row.pair = key := by
  obtain ⟨key, _, isLot⟩ := List.mem_map.mp member
  exact ⟨key, isLot.symm⟩

theorem mergeLots_kept (single : (opens.filter fun stored => stored.row.pair = pair).length ≤ 1) :
    (selling pair).Triple 0 (Merging pair id row opens) (forEach mergeLot (byPair opens))
      (outcome (fun _ => Merging pair id row opens) fun _ => Merging pair id row opens) := by
  refine Triple.forEach fun lot inGroups => ?_
  obtain ⟨key, isLot⟩ := mem_byPair inGroups
  refine mergeLot_other (fun stored inLot => ?_) fun atLeastTwo stored inLot isPair => ?_
  · rw [isLot] at inLot
    exact (List.mem_filter.mp inLot).1
  · rw [isLot] at inLot atLeastTwo
    have isKey : stored.row.pair = key := of_decide_eq_true (List.mem_filter.mp inLot).2
    rw [← isKey, isPair] at atLeastTwo
    omega

/-- What the merge reads. -/
theorem findOpenTrades_merging :
    (selling pair).Triple 0 (At pair id {} row) (await .findOpenTrades)
      (outcome (fun opens moment =>
          (opens.filter fun stored => stored.row.pair = pair).length ≤ 1 ∧
            Merging pair id row opens moment) fun _ _ => False) := by
  refine Triple.alone fun before delivery holds _ undisturbed => ⟨trivial, trivial, ?_⟩
  have answered : delivery = .answered := undisturbed
  rw [answered]
  have single : ((openRows before.state.trades).filter fun stored =>
      stored.row.pair = pair).length ≤ 1 := by
    rw [filter_openRows, holds.lot.openRowsOf]
    split <;> simp
  exact ⟨single, holds.afterSilent trivial, samePairs_openRows _⟩

/-- The merge leaves a lot alone that has no duplicates. -/
theorem tryMerge_kept :
    (selling pair).Triple 0 (At pair id {} row) tryMerge
      (outcome (fun _ => At pair id {} row) fun _ => At pair id {} row) := by
  have never : ∀ (failure : String) moment, False → At pair id {} row moment :=
    fun _ _ => False.elim
  suffices merging : (selling pair).Triple 0 (At pair id {} row)
      mergeDuplicateJupiterOpenTrades
      (outcome (fun _ => At pair id {} row) fun _ => At pair id {} row) from
    Triple.recover merging fun _ => Triple.done fun _ holds => holds
  refine Triple.bind (ensureStrategy_answered.throwing never) fun _ =>
    Triple.bind (findOpenTrades_merging.throwing never) fun opens => Triple.given fun single => ?_
  split
  · exact Triple.done fun _ holds => holds.1
  · have merged : (selling pair).Triple 0 (Merging pair id row opens)
        (forEach mergeLot (byPair opens)) (outcome (fun _ => Merging pair id row opens)
          fun _ => Merging pair id row opens) := mergeLots_kept single
    exact Triple.bind (merged.throwing fun _ _ holds => holds.1) fun _ =>
      Triple.done fun _ holds => holds.1

/-! ### The swap and its booking -/

theorem submitSwap_executed (signed : SignedTransaction) :
    (selling pair).Triple 0 (At pair id {} row) (submitSwap signed)
      (outcome (fun _ => At pair id { swap := some signed.swap } row)
        fun _ => At pair id {} row) := by
  have submitted : (selling pair).Triple 0 (At pair id {} row)
      (await (.submitJupiterExecute signed))
      (outcome (fun reply => At pair id
          (if wasExecuted reply then { swap := some signed.swap } else {}) row)
        fun _ => At pair id {} row) := by
    refine Triple.alone fun before answer holds _ _ => ⟨trivial, trivial, ?_⟩
    cases answer with
    | ok reply =>
      refine ⟨?_, holds.lot⟩
      rw [sellAccount_after, holds.account]
      rfl
    | error message => exact ⟨holds.account, holds.lot⟩
  refine Triple.bind submitted fun reply moment holds => ?_
  unfold wasExecuted at holds
  cases read : executedSignature reply with
  | ok signature =>
    rw [read] at holds
    exact holds
  | error message =>
    rw [read] at holds
    exact holds

theorem reconcile_priced (mint : String) (swap : Swap) :
    (selling pair).Triple 0 (At pair id { swap := some swap } row)
      (reconcileFillPriceWithMark mint swap.price)
      (outcome (fun price moment => ∃ mark, price = bookedPrice swap mark ∧
          At pair id { swap := some swap, mark := mark } row moment) fun _ _ => False) := by
  unfold reconcileFillPriceWithMark
  split
  · next unpriced =>
    refine Triple.done fun moment holds => ⟨none, ?_, holds⟩
    rw [bookedPrice, if_pos unpriced]
  · next priced =>
    have fetched : (selling pair).Triple 0 (At pair id { swap := some swap } row)
        (await (.fetchJupiterPrice mint))
        (outcome (fun mark => At pair id { swap := some swap, mark := mark } row)
          fun _ => At pair id { swap := some swap } row) := by
      refine Triple.alone fun before answer holds _ _ => ⟨trivial, trivial, ?_⟩
      cases answer with
      | ok mark =>
        refine ⟨?_, holds.lot⟩
        rw [sellAccount_after, holds.account]
        rfl
      | error message => exact ⟨holds.account, holds.lot⟩
    have clamped : (selling pair).Triple 0 (At pair id { swap := some swap } row)
        (do
          let mark ← await (.fetchJupiterPrice mint)
          pure (clampToMark swap.price mark))
        (outcome (fun price moment => ∃ mark, price = bookedPrice swap mark ∧
            At pair id { swap := some swap, mark := mark } row moment)
          fun _ => At pair id { swap := some swap } row) := by
      refine Triple.bind fetched fun mark => Triple.done fun moment holds => ⟨mark, ?_, holds⟩
      rw [bookedPrice, if_neg priced]
    refine Triple.recover clamped fun _ => Triple.done fun moment holds => ⟨none, ?_, holds⟩
    rw [bookedPrice, if_neg priced]
    rfl

theorem bookSell_booked {swap : Swap} {price : ℚ} (isOpen : row.IsOpen) :
    (selling pair).Triple 0 (At pair id account row) (bookSell looked swap price)
      (outcome (fun _ => At pair id account ((sellPatch row swap price).apply row))
        fun _ _ => False) := by
  refine Triple.bind findOpenTrade_answered fun found => Triple.given fun isFound => ?_
  obtain ⟨isPair, isLot⟩ := isFound
  rw [if_pos isOpen] at isLot
  subst isLot isPair
  refine Triple.bind (updateLot_answered (sellPatch row swap price)) fun updated => ?_
  split
  · dsimp only
    split
    · exact Triple.done fun _ holds => holds
    · exact Triple.done fun _ holds => holds
  · exact Triple.bind cancelOthers_answered fun _ => Triple.done fun _ holds => holds

/-- The sell was executed and booked. -/
def Sold (pair : String) (id : ℕ) (row : Trade) (moment : Moment venue) : Prop :=
  ∃ swap mark, 0 ≤ swap.inAmount ∧ At pair id { swap := some swap, mark := mark }
    ((sellPatch row swap (bookedPrice swap mark)).apply row) moment

/-- A sell of the OPEN lot is executed and booked, or nothing happens. -/
theorem executeJupiterSwap_sold {settings : Settings} {request : SwapRequest}
    {options : ExecuteOptions} (isSell : request.side = .sell) (isOpen : row.IsOpen) :
    (selling pair).Triple 0 (At pair id {} row) (executeJupiterSwap settings request options)
      (outcome (fun _ => Sold pair id row) fun _ => At pair id {} row) := by
  have never : ∀ (failure : String) moment, False → At pair id {} row moment :=
    fun _ _ => False.elim
  have prepared : (selling pair).Triple 0 (At pair id {} row)
      (prepareSwap settings request options) (outcome (fun _ => At pair id {} row)
        fun _ => At pair id {} row) :=
    silent_program (only_prepareSwap.mono silent_of_preparing)
  refine Triple.bind (prepared.returning returns_prepareSwap) fun plan =>
    Triple.given fun isPlan => ?_
  refine Triple.bind (submitSwap_executed plan.signed) fun signature => ?_
  refine Triple.bind ((reconcile_priced plan.token.mint plan.signed.swap).throwing never)
    fun price => ?_
  intro moment ⟨mark, isPrice, holds⟩
  have booked : (selling pair).Triple 0
      (At pair id { swap := some plan.signed.swap, mark := mark } row)
      (book plan.token.pair plan.signed.swap price)
      (outcome (fun _ => Sold pair id row) fun _ => At pair id {} row) := by
    unfold book
    rw [isPlan.1, isSell]
    refine ((bookSell_booked isOpen).throwing never).weaken (fun _ holds => holds)
      fun result reached post => ?_
    cases result with
    | ok trade =>
      rw [isPrice] at post
      exact ⟨_, mark, isPlan.2, post⟩
    | error message => exact post
  refine (?_ : (selling pair).Triple 0
    (At pair id { swap := some plan.signed.swap, mark := mark } row) _ _) moment holds
  exact Triple.bind (ensureStrategy_answered.throwing never) fun _ =>
    Triple.bind booked fun _ => Triple.done fun _ sold => sold

/-! ### The exits -/

/-- What an exit leaves: the lot as it was, or an OPEN lot sold or dropped. -/
def Left (pair : String) (id : ℕ) (row : Trade) (moment : Moment venue) : Prop :=
  At pair id {} row moment ∨
    row.IsOpen ∧ (Sold pair id row moment ∨ At pair id { dropped := true } row.cancel moment)

theorem never_left (_ : String) (moment : Moment venue) (never : False) :
    Left pair id row moment := never.elim

/-- The calls of the exits, once they have something to sell. -/
theorem executeJupiterSwap_left {settings : Settings} {binanceSymbol : String} {amount : ℚ}
    {options : ExecuteOptions} (isOpen : row.IsOpen) :
    (selling pair).Triple 0 (At pair id {} row)
      (executeJupiterSwap settings (exitRequest settings binanceSymbol amount) options)
      (outcome (fun _ => Left pair id row) fun _ => Left pair id row) := by
  refine (executeJupiterSwap_sold rfl isOpen).weaken (fun _ holds => holds)
    fun result moment post => ?_
  cases result with
  | ok result => exact Or.inr ⟨isOpen, Or.inl post⟩
  | error message => exact Or.inl post

/-- An operation whose failure leaves the lot as it was. -/
theorem silent_left {op : Op} (silent : Silent {} op) :
    (selling pair).Triple 0 (At pair id {} row) (await op)
      (outcome (fun _ => At pair id {} row) fun _ => Left pair id row) := by
  have kept : (selling pair).Triple 0 (At pair id {} row) (await op)
      (outcome (fun _ => At pair id {} row) fun _ => At pair id {} row) :=
    silent_program (only_perform silent)
  exact kept.throwing fun _ _ holds => Or.inl holds

variable {message : String}

theorem throwIf_left {condition : Prop} [Decidable condition] :
    (selling pair).Triple 0 (At pair id {} row) (throwIf condition message)
      (outcome (fun _ => At pair id {} row) fun _ => Left pair id row) :=
  Triple.throwIf (fun _ _ holds => Or.inl holds) fun _ _ holds => holds

theorem orThrow_left {Found : Type} {value : Option Found} :
    (selling pair).Triple 0 (At pair id {} row) (orThrow value message)
      (outcome (fun _ => At pair id {} row) fun _ => Left pair id row) :=
  Triple.orThrow (fun _ _ holds => Or.inl holds) fun _ _ _ holds => holds

theorem openLot_left {found : Option (Stored Trade)}
    (isFound : found = if row.IsOpen then some ⟨id, row⟩ else none) :
    (selling pair).Triple 0 (At pair id {} row) (orThrow found message)
      (outcome (fun stored moment => (stored.row = row ∧ row.IsOpen) ∧ At pair id {} row moment)
        fun _ => Left pair id row) := by
  refine Triple.orThrow (fun _ _ holds => Or.inl holds) fun stored isStored _ holds => ⟨?_, holds⟩
  rw [isFound] at isStored
  split at isStored
  · cases isStored
    exact ⟨rfl, ‹_›⟩
  · cases isStored

theorem skimJupiterPositionProfit_left (settings : Settings) (symbol : String) :
    (selling pair).Triple 0 (At pair id {} row) (skimJupiterPositionProfit settings symbol)
      (outcome (fun _ => Left pair id row) fun _ => Left pair id row) := by
  refine Triple.bind (ensureStrategy_answered.throwing never_left) fun _ => ?_
  refine Triple.bind (tryMerge_kept.throwing fun _ _ holds => Or.inl holds) fun _ => ?_
  refine Triple.bind (findOpenTrade_answered.throwing never_left) fun found =>
    Triple.given fun isFound => ?_
  refine Triple.bind (openLot_left isFound.2) fun stored => Triple.given fun isLot => ?_
  refine Triple.bind throwIf_left fun _ => ?_
  refine Triple.bind (silent_left trivial) fun quoted => ?_
  refine Triple.bind orThrow_left fun exitMark => ?_
  refine Triple.bind throwIf_left fun _ => ?_
  refine Triple.bind (silent_left trivial) fun token => ?_
  refine Triple.bind orThrow_left fun token => ?_
  refine Triple.bind (silent_left trivial) fun walletQty => ?_
  refine Triple.bind throwIf_left fun _ => ?_
  refine Triple.bind throwIf_left fun _ => ?_
  exact executeJupiterSwap_left isLot.2

theorem skimOpenTrade_left (settings : Settings) (prefs : ExitSettings) (baseSymbol : String)
    (isOpen : row.IsOpen) :
    (selling pair).Triple 0 (At pair id {} row) (skimOpenTrade settings prefs baseSymbol row)
      (outcome (fun _ => Left pair id row) fun _ => Left pair id row) := by
  have nothing : (selling pair).Triple 0 (At pair id {} row) (pure () : Call Unit)
      (outcome (fun _ => Left pair id row) fun _ => Left pair id row) :=
    Triple.done fun _ holds => Or.inl holds
  unfold skimOpenTrade
  split
  · exact nothing
  · refine Triple.bind (silent_left trivial) fun quoted => ?_
    split
    · exact nothing
    · dsimp only
      split
      · refine Triple.bind (silent_left trivial) fun token => ?_
        split
        · -- a failed swap is logged, and leaves what it left
          refine Triple.recover ?_ fun _ => Triple.done fun _ left => left
          exact Triple.bind (executeJupiterSwap_left isOpen) fun _ =>
            Triple.done fun _ left => left
        · exact nothing
      · exact nothing

theorem watchPair_left (settings : Settings) (prefs : ExitSettings) (baseSymbol : String) :
    (selling pair).Triple 0 (At pair id {} row) (watchPair settings prefs baseSymbol)
      (outcome (fun _ => Left pair id row) fun _ => Left pair id row) := by
  refine Triple.bind (findOpenTradesOf_answered.throwing never_left) fun stillOpen =>
    Triple.given fun isFound => ?_
  rw [isFound]
  split
  · next isOpen =>
    exact Triple.bind (skimOpenTrade_left settings prefs baseSymbol isOpen) fun _ =>
      Triple.done fun _ left => left
  · exact Triple.done fun _ holds => Or.inl holds

theorem cancelRest_left {settled : SellAccount} {sold : Trade} {Value : Type} {value : Value}
    (implies : ∀ moment, At pair id settled sold moment → Left pair id row moment) :
    (selling pair).Triple 0 (At pair id settled sold)
      (do
        let stillOpen ← await (.findOpenTradesOf looked)
        cancelRest (stillOpen.drop 1)
        pure value)
      (outcome (fun _ => Left pair id row) fun _ => Left pair id row) := by
  refine Triple.bind (findOpenTradesOf_answered.throwing never_left) fun stillOpen =>
    Triple.given fun isFound => ?_
  have none : stillOpen.drop 1 = [] := by
    rw [isFound]
    split <;> rfl
  rw [none]
  exact Triple.done implies

theorem sellJupiterOpenPosition_left (settings : Settings) (symbol : String)
    (fraction : Fraction) :
    (selling pair).Triple 0 (At pair id {} row)
      (sellJupiterOpenPosition settings symbol fraction)
      (outcome (fun _ => Left pair id row) fun _ => Left pair id row) := by
  refine Triple.bind (ensureStrategy_answered.throwing never_left) fun _ => ?_
  refine Triple.bind (findOpenTradesOf_answered.throwing never_left) fun openTrades =>
    Triple.given fun isFound => ?_
  by_cases isOpen : row.IsOpen
  · rw [if_pos isOpen] at isFound
    subst isFound
    have dropped : (selling pair).Triple 0 (At pair id {} row) (await (.cancelOpenTrades [id]))
        (outcome (fun _ => Left pair id row) fun _ => Left pair id row) := by
      refine (dropLot_answered isOpen).weaken (fun _ holds => holds) fun result moment post => ?_
      cases result with
      | ok answer => exact Or.inr ⟨isOpen, Or.inr post⟩
      | error message => exact post.elim
    refine Triple.bind throwIf_left fun _ => ?_
    refine Triple.bind (tryMerge_kept.throwing fun _ _ holds => Or.inl holds) fun _ => ?_
    refine Triple.bind (silent_left trivial) fun token => ?_
    refine Triple.bind orThrow_left fun token => ?_
    dsimp only
    split
    · exact Triple.bind dropped fun _ => Triple.done fun _ left => left
    · refine Triple.bind (silent_left trivial) fun walletQty => ?_
      split
      · exact Triple.bind dropped fun _ => Triple.done fun _ left => left
      · refine Triple.bind ((executeJupiterSwap_sold rfl isOpen).throwing fun _ _ holds =>
          Or.inl holds) fun result => ?_
        intro moment ⟨swap, mark, paid, sold⟩
        exact cancelRest_left (fun reached booked =>
          Or.inr ⟨isOpen, Or.inl ⟨swap, mark, paid, booked⟩⟩) moment sold
  · rw [if_neg isOpen] at isFound
    subst isFound
    exact Triple.failed fun _ holds => Or.inl holds

theorem exit_left (settings : Settings) (symbol : String) (exit : Exit) :
    (selling pair).Triple 0 (At pair id {} row) (exit.call settings symbol)
      (outcome (fun _ => Left pair id row) fun _ => Left pair id row) := by
  cases exit with
  | skim =>
    exact Triple.bind (skimJupiterPositionProfit_left settings symbol) fun _ =>
      Triple.done fun _ left => left
  | watcherSkim prefs => exact watchPair_left settings prefs (baseOf symbol)
  | sell fraction =>
    exact Triple.bind (sellJupiterOpenPosition_left settings symbol fraction) fun _ =>
      Triple.done fun _ left => left

end Awaits

/-! ### One call of a history -/

section History

variable {settings : Settings} {symbol : String} {lot : Lot} {row : Trade} {desk : Desk}
  {sales : List Sale}

theorem Deal.left {pair : String} {id : ℕ} {deal : Deal}
    (runs : deal.RunsFrom settings symbol pair desk) (isLot : LotIs pair id row desk.trades) :
    Left pair id row deal.moment := by
  obtain ⟨system, turns, isSystem, isMoment, hasEnded, undisturbed⟩ := runs
  subst isSystem
  have triple : (selling pair).Triple 0 (fun moment => moment = ⟨desk, []⟩)
      (deal.exit.call settings symbol)
      (outcome (fun _ => Left pair id row) fun _ => Left pair id row) := by
    refine (exit_left settings symbol deal.exit).weaken (fun moment start => ?_) fun _ _ post => post
    rw [start]
    exact ⟨rfl, isLot⟩
  obtain ⟨result, isEnded⟩ := Option.isSome_iff_exists.mp hasEnded
  obtain ⟨ended, isCall, isResult⟩ := Option.bind_eq_some_iff.mp isEnded
  have holds := (sound_alone trivial triple turns undisturbed).1.calls 0 ended isCall
  have left := outcome_const.mp (holds.ended isResult rfl)
  rw [isMoment] at left
  exact left

/-- What is known of the lot's row at any point. -/
structure Tracks (lot : Lot) (desk : Desk) (row : Trade) : Prop where
  isLot : LotIs lot.pair lot.id row desk.trades
  entry : row.IsOpen → row.entryPrice = lot.row.entryPrice
  funded : row.IsOpen → 0 < row.alloc

theorem Tracks.accounts_iff (tracks : Tracks lot desk row) : lot.Accounts sales desk ↔
    row.banked = lot.row.banked + (sales.map lot.profit).sum ∧
      (lot.remainingCost sales > dustAlloc →
        row.IsOpen ∧ row.alloc = lot.remainingCost sales) := by
  constructor
  · rintro ⟨⟨stored, found, isBanked⟩, cost⟩
    rw [tracks.isLot.found] at found
    cases found
    refine ⟨isBanked, fun moreThanDust => ?_⟩
    obtain ⟨stored, isOpenRow, carries⟩ := cost moreThanDust
    rw [tracks.isLot.openRowsOf] at isOpenRow
    split at isOpenRow
    · rw [List.mem_singleton] at isOpenRow
      rw [isOpenRow] at carries
      exact ⟨‹_›, carries⟩
    · cases isOpenRow
  · rintro ⟨isBanked, cost⟩
    refine ⟨⟨row, tracks.isLot.found, isBanked⟩, fun moreThanDust => ?_⟩
    obtain ⟨isOpen, carries⟩ := cost moreThanDust
    refine ⟨⟨lot.id, row⟩, ?_, carries⟩
    rw [tracks.isLot.openRowsOf, if_pos isOpen]
    exact List.mem_singleton_self _

theorem Lot.remainingCost_cons (lot : Lot) (sale : Sale) (sales : List Sale) :
    lot.remainingCost (sale :: sales) = lot.remainingCost sales - lot.slice sale := by
  unfold Lot.remainingCost Lot.remaining Lot.slice
  rw [List.map_cons, List.sum_cons]
  ring

theorem Trade.realized_eq (row : Trade) (swap : Swap) (price : ℚ) :
    row.realized swap price = roundTripRealizedPnl (row.booked swap) row.entryPrice price := by
  unfold Trade.realized Trade.booked
  by_cases takes : row.TakesSlice swap
  · rw [if_pos takes, if_pos takes, Trade.skimAlloc_eq takes]
  · rw [if_neg takes, if_neg takes]

theorem sold_accounts {swap : Swap} {price : ℚ} (tracks : Tracks lot desk row)
    (isOpen : row.IsOpen) (accounts : lot.Accounts sales desk) (paid : 0 ≤ swap.inAmount) :
    ((soldRow row swap price).banked = lot.row.banked +
        ((Sale.mk swap.inAmount price :: sales).map lot.profit).sum ∧
      (lot.remainingCost (⟨swap.inAmount, price⟩ :: sales) > dustAlloc →
        (soldRow row swap price).IsOpen ∧
          (soldRow row swap price).alloc = lot.remainingCost (⟨swap.inAmount, price⟩ :: sales))) ↔
    lot.Books sales row swap ⟨swap.inAmount, price⟩ := by
  set sale : Sale := ⟨swap.inAmount, price⟩ with saleIs
  obtain ⟨isBanked, cost⟩ := tracks.accounts_iff.mp accounts
  have entry := tracks.entry isOpen
  have realized : (soldRow row swap price).banked = row.banked +
      roundTripRealizedPnl (row.booked swap) lot.row.entryPrice sale.price := by
    rw [banked_soldRow, Trade.realized_eq, entry]
  have slice : 0 ≤ lot.slice sale := mul_nonneg paid lot.priced.le
  rw [realized, isBanked, List.map_cons, List.sum_cons]
  refine and_congr ⟨fun same => by linarith, fun same => by linarith⟩ ?_
  refine imp_congr_right fun moreThanDust => ?_
  rw [lot.remainingCost_cons] at moreThanDust ⊢
  obtain ⟨_, carries⟩ := cost (by linarith)
  constructor
  · rintro ⟨stays, left⟩
    obtain ⟨takes, _⟩ := isOpen_soldRow.mp stays
    refine ⟨takes, ?_⟩
    rw [alloc_soldRow stays, Trade.remainingAlloc_eq takes, carries,
      entry] at left
    have sameCost : swap.asked * lot.row.entryPrice = swap.inAmount * lot.row.entryPrice :=
      sub_right_injective left
    exact mul_right_cancel₀ lot.priced.ne' sameCost
  · rintro ⟨takes, asksWhatItSold⟩
    have left : row.remainingAlloc swap = lot.remainingCost sales - lot.slice sale := by
      rw [Trade.remainingAlloc_eq takes, carries, entry, asksWhatItSold]
      rfl
    have stays : (soldRow row swap price).IsOpen :=
      isOpen_soldRow.mpr ⟨takes, by rw [left]; exact moreThanDust⟩
    exact ⟨stays, (alloc_soldRow stays).trans left⟩

/-- The sales once a call is over. -/
def salesAfter (id : ℕ) (deal : Deal) (sales : List Sale) : List Sale :=
  (sellAccount id deal.moment).sale.toList ++ sales

/-- One call keeps the lot in sight, and the accounts exactly when it fits. -/
theorem deal_accounts {deal : Deal} (tracks : Tracks lot desk row)
    (left : Left lot.pair lot.id row deal.moment) :
    (∃ later, Tracks lot deal.moment.state later) ∧ (lot.Accounts sales desk →
      (lot.Accounts (salesAfter lot.id deal sales) deal.moment.state ↔
        lot.Fits sales desk (sellAccount lot.id deal.moment))) := by
  unfold salesAfter
  rcases left with kept | ⟨isOpen, ⟨swap, mark, paid, sold⟩ | dropped⟩
  · -- nothing was sold
    have same : Tracks lot deal.moment.state row := ⟨kept.lot, tracks.entry, tracks.funded⟩
    rw [kept.account]
    refine ⟨⟨row, same⟩, fun accounts => iff_of_true ?_ ⟨?_, ?_⟩⟩
    · exact same.accounts_iff.mpr (tracks.accounts_iff.mp accounts)
    · rintro swap sale current ⟨⟩
    · rintro ⟨⟩
  · -- a sell was booked
    set price := bookedPrice swap mark with priceIs
    have booked : Tracks lot deal.moment.state (soldRow row swap price) := by
      refine ⟨sold.lot, fun _ => ?_, fun stays => ?_⟩
      · rw [entryPrice_soldRow]
        exact tracks.entry isOpen
      · rw [alloc_soldRow stays]
        exact lt_trans (by norm_num [dustAlloc]) (isOpen_soldRow.mp stays).2
    rw [sold.account]
    refine ⟨⟨_, booked⟩, fun accounts => ?_⟩
    show lot.Accounts (⟨swap.inAmount, price⟩ :: sales) deal.moment.state ↔ _
    rw [booked.accounts_iff, sold_accounts tracks isOpen accounts paid]
    constructor
    · refine fun books => ⟨?_, ?_⟩
      · rintro other sale current ⟨⟩ ⟨⟩ found
        rw [tracks.isLot.found] at found
        cases found
        exact books
      · rintro ⟨⟩
    · exact fun fits => fits.1 _ _ row rfl rfl tracks.isLot.found
  · -- the lot was dropped
    have cancelled : Tracks lot deal.moment.state row.cancel := ⟨dropped.lot, nofun, nofun⟩
    rw [dropped.account]
    refine ⟨⟨_, cancelled⟩, fun accounts => ?_⟩
    show lot.Accounts sales deal.moment.state ↔ _
    rw [cancelled.accounts_iff]
    have isBanked := (tracks.accounts_iff.mp accounts).1
    constructor
    · rintro ⟨_, cost⟩
      refine ⟨?_, fun _ => ?_⟩
      · rintro swap sale current ⟨⟩
      · by_contra moreThanDust
        cases (cost (not_le.mp moreThanDust)).1
    · exact fun fits => ⟨isBanked, fun moreThanDust =>
        absurd (fits.2 rfl) (not_le.mpr moreThanDust)⟩

end History

/-! ### Every history -/

theorem accounts_start {lot : Lot} {start : Desk}
    (isLot : LotIs lot.pair lot.id lot.row start.trades) : lot.Accounts [] start := by
  have tracks : Tracks lot start lot.row := ⟨isLot, fun _ => rfl, fun _ => lot.funded⟩
  refine tracks.accounts_iff.mpr ⟨by simp, fun _ => ⟨lot.isOpen, ?_⟩⟩
  have priced := lot.priced.ne'
  simp only [Lot.remainingCost, Lot.remaining, List.map_nil, List.sum_nil, sub_zero]
  field_simp

theorem salesOf_cons (id : ℕ) (deal : Deal) (earlier : List Deal) :
    salesOf id (deal :: earlier) = salesAfter id deal (salesOf id earlier) := by
  unfold salesOf salesAfter
  rw [List.filterMap_cons]
  cases (sellAccount id deal.moment).sale <;> rfl

theorem tracks_deskAfter {settings : Settings} {symbol : String} {lot : Lot} {start : Desk}
    (isLot : LotIs lot.pair lot.id lot.row start.trades) {deals : List Deal}
    (history : History settings symbol lot.pair start deals) :
    ∃ row, Tracks lot (deskAfter start deals) row := by
  induction deals with
  | nil => exact ⟨lot.row, isLot, fun _ => rfl, fun _ => lot.funded⟩
  | cons deal earlier inductionHypothesis =>
    obtain ⟨runs, before⟩ := history
    obtain ⟨row, tracks⟩ := inductionHypothesis before
    exact (@deal_accounts lot row _ [] deal tracks (Deal.left runs tracks.isLot)).1

/-- A lot's row accounts for every skim and sell of a history exactly when each of them fits: the
cost it books and the cost it sold give the same profit, and when more than dust is left, it was
a skim that sold what it asked for, and the lot was not dropped as stale. -/
theorem accountsThroughout_iff_fitsThroughout (settings : Settings) (symbol : String) (lot : Lot)
    (start : Desk) (deals : List Deal) (isLot : LotIs lot.pair lot.id lot.row start.trades)
    (history : History settings symbol lot.pair start deals) :
    AccountsThroughout lot start deals ↔ FitsThroughout lot start deals := by
  induction deals with
  | nil =>
    refine iff_of_true (fun earlier isSuffix => ?_) fun deal earlier isSuffix => ?_
    · rw [List.suffix_nil.mp isSuffix]
      exact accounts_start isLot
    · cases List.suffix_nil.mp isSuffix
  | cons deal earlier inductionHypothesis =>
    obtain ⟨runs, before⟩ := history
    obtain ⟨row, tracks⟩ := tracks_deskAfter isLot before
    have step := (@deal_accounts lot row _ (salesOf lot.id earlier) deal tracks
      (Deal.left runs tracks.isLot)).2
    rw [← salesOf_cons] at step
    have prior := inductionHypothesis before
    constructor
    · intro throughout
      have priorAccounts : AccountsThroughout lot start earlier :=
        fun shorter isSuffix => throughout shorter (isSuffix.trans (List.suffix_cons _ _))
      intro other shorter isSuffix
      rcases List.suffix_cons_iff.mp isSuffix with isWhole | isShorter
      · cases isWhole
        exact (step (priorAccounts earlier List.suffix_rfl)).mp (throughout _ List.suffix_rfl)
      · exact prior.mp priorAccounts other shorter isShorter
    · intro fits
      have priorAccounts : AccountsThroughout lot start earlier :=
        prior.mpr fun other shorter isSuffix =>
          fits other shorter (isSuffix.trans (List.suffix_cons _ _))
      intro shorter isSuffix
      rcases List.suffix_cons_iff.mp isSuffix with isWhole | isShorter
      · subst isWhole
        exact (step (priorAccounts earlier List.suffix_rfl)).mpr (fits _ _ List.suffix_rfl)
      · exact priorAccounts shorter isShorter

/-! ### Half of a lot -/

def exampleSettings : Settings where
  solanaWalletEnabled := true
  jupiterConfigured := true
  dexAutoExitSlippageBps := 50

def wifToken : Token := ⟨"WIFUSDT", "WIF", "EKpQGSJtjMFqKZ9KQanSqYXRcF8fBopzLHYxdM65zcjm", 6⟩

/-- An OPEN row of a hundred tokens bought at a dollar. -/
def wifRow : Trade where
  pair := "WIF/USDT"
  entryPrice := 1
  exitPrice := none
  pnl := none
  allocationUsd := some 100
  takeProfitPct := none
  status := .open

def wifDesk : Desk := ⟨[wifRow], fun _ => none⟩

def wifLot : Lot := ⟨"WIF/USDT", 0, wifRow, rfl, by decide, by decide +kernel⟩

theorem wifDesk_isLot : LotIs wifLot.pair wifLot.id wifLot.row wifDesk.trades where
  found := rfl
  isPair := rfl
  others other stored found different := by
    cases other with
    | zero => exact absurd rfl different
    | succ position => cases found

/-- A market that answers every question: what the wallet holds, the quote in dollars, and what
an order brings in millionths of a dollar. -/
def market (held quote : ℚ) (outAmount : ℕ) : (op : Op) → Fate op
  | .ensureSolanaPersonalWallet => .ok ()
  | .ensureSolanaSwapGas => .ok ()
  | .previewJupiterSwap _ _ => .ok ⟨true, false, none, none⟩
  | .getJupiterTradableToken _ => .ok (some wifToken)
  | .getSolanaMintDecimals _ => .ok 6
  | .fetchJupiterPrice _ => .ok none
  | .getSolanaKeypair => .ok "7xKX"
  | .getSolanaTokenBalance _ _ => .ok held
  | .pickBestJupiterDexFilter _ => .ok none
  | .getJupiterOrder _ => .ok ⟨some "AQAB", "r1", none, outAmount⟩
  | .submitJupiterExecute _ => .ok ⟨true, 200, some "Success", none, none, some "5sig"⟩
  | .quoteJupiterSellUsdPerToken _ _ => .ok (some quote)
  | .enterBuy _ => (0 : ℕ)
  | .leaveBuy _ => ()
  | .ensureJupiterStrategyId => .answered
  | .findOpenTrade _ => .answered
  | .findOpenTrades => .answered
  | .findOpenTradesOf _ => .answered
  | .updateTrade _ _ => .answered
  | .cancelOpenTrades _ => .answered
  | .cancelOtherTrades _ _ => .answered
  | .createTrade _ => .answered
  | .findTrades => .answered
  | .listSolanaHoldings => .ok [⟨wifToken.mint, held⟩]
  | .currentTime => (600000 : ℕ)
  | .sleep _ => ()

/-- The schedule of a call in this market. -/
def marketTurns (held quote : ℚ) (outAmount : ℕ) : List (Turn venue) :=
  List.replicate 32 ⟨0, market held quote outAmount⟩

def wifSystem (exit : Exit) : System venue Unit :=
  .solo wifDesk (exit.call exampleSettings "WIF")

/-- A skim at 1.25 dollars sells twenty tokens. -/
def skimDeal : Deal := ⟨.skim, ((wifSystem .skim).run (marketTurns 100 (5 / 4) 25000000)).moment⟩

/-- Half a lot at 1.2 dollars sells 49 tokens, for the haircut. -/
def halfDeal : Deal :=
  ⟨.sell .half, ((wifSystem (.sell .half)).run (marketTurns 100 (6 / 5) 58800000)).moment⟩

theorem wif_runsFrom {exit : Exit} {turns : List (Turn venue)}
    (ended : (((wifSystem exit).run turns).calls[0]?.bind result?).isSome)
    (undisturbed : ∀ step ∈ (wifSystem exit).steps turns, Undisturbed wifLot.pair step) :
    (Deal.mk exit ((wifSystem exit).run turns).moment).RunsFrom exampleSettings "WIF"
      wifLot.pair wifDesk :=
  ⟨wifSystem exit, turns, rfl, rfl, ended, undisturbed⟩

theorem skimDeal_runs :
    (((wifSystem .skim).run (marketTurns 100 (5 / 4) 25000000)).calls[0]?.bind result?).isSome ∧
      (∀ step ∈ (wifSystem .skim).steps (marketTurns 100 (5 / 4) 25000000),
        Undisturbed wifLot.pair step) ∧
      sellAccount wifLot.id skimDeal.moment =
        { swap := some ⟨.sell, true, wifToken.mint, 20, 20, 25⟩ } := by
  decide +kernel

/-- A skim is accounted for. -/
theorem accountsThroughout_skim : AccountsThroughout wifLot wifDesk [skimDeal] := by
  obtain ⟨ended, undisturbed, account⟩ := skimDeal_runs
  refine (accountsThroughout_iff_fitsThroughout exampleSettings "WIF" wifLot wifDesk [skimDeal]
    wifDesk_isLot ⟨wif_runsFrom ended undisturbed, trivial⟩).mpr fun deal earlier isSuffix => ?_
  rcases List.suffix_cons_iff.mp isSuffix with isWhole | isShorter
  · cases isWhole
    rw [account]
    refine ⟨?_, by rintro ⟨⟩⟩
    rintro swap sale row ⟨⟩ ⟨⟩ found
    cases found
    exact ⟨by decide +kernel, fun _ => by decide +kernel⟩
  · cases List.suffix_nil.mp isShorter

/-- The balance of a wallet, as the service was told it. -/
def walletBalance : Event venue → Option ℚ
  | ⟨_, .getSolanaTokenBalance _ _, _, .ok held⟩ => some held
  | _ => none

def WalletHolds (lot : Lot) (deals : List Deal) : Prop :=
  ∀ deal ∈ deals, ∀ event ∈ deal.moment.log, ∀ held ∈ walletBalance event,
    lot.row.alloc / lot.row.entryPrice ≤ held

theorem halfDeal_runs :
    (((wifSystem (.sell .half)).run
      (marketTurns 100 (6 / 5) 58800000)).calls[0]?.bind result?).isSome ∧
    (∀ step ∈ (wifSystem (.sell .half)).steps (marketTurns 100 (6 / 5) 58800000),
      Undisturbed wifLot.pair step) ∧
    (∀ event ∈ halfDeal.moment.log, ∀ held ∈ walletBalance event,
      wifLot.row.alloc / wifLot.row.entryPrice ≤ held) ∧
    halfDeal.moment.state.trades[0]?.map Trade.banked = some 20 ∧
    wifLot.row.banked + ((salesOf 0 [halfDeal]).map wifLot.profit).sum = 49 / 5 := by
  decide +kernel

/-- Half a lot is booked as the whole lot, and no OPEN row is left for the other half. -/
theorem not_accountsThroughout :
    ¬ ∀ (settings : Settings) (symbol : String) (lot : Lot) (start : Desk) (deals : List Deal),
      LotIs lot.pair lot.id lot.row start.trades →
      History settings symbol lot.pair start deals → WalletHolds lot deals →
      AccountsThroughout lot start deals := by
  intro claimed
  obtain ⟨ended, undisturbed, holds, booked, sold⟩ := halfDeal_runs
  have held : WalletHolds wifLot [halfDeal] := List.forall_mem_singleton.mpr holds
  have accounts := claimed exampleSettings "WIF" wifLot wifDesk [halfDeal] wifDesk_isLot
    ⟨wif_runsFrom ended undisturbed, trivial⟩ held [halfDeal] List.suffix_rfl
  obtain ⟨row, found, banked⟩ := accounts.pnl
  have isBooked : some row.banked = some 20 := by
    rw [← booked]
    exact (congrArg (Option.map Trade.banked) found).symm
  rw [Option.some.injEq, banked] at isBooked
  have wrong : (49 / 5 : ℚ) = 20 := sold.symm.trans isBooked
  norm_num at wrong

end GdslExchange.Jupiter
