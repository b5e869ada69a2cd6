/-
This file settles when the paper book is conserved: the portfolio changes by what
the trades that were closed have made, and no trade is closed or credited twice.

A close reads the trade, writes the row and then credits the portfolio, each on
its own. Two closes that have both read the row while it was OPEN both write it
and both credit it, and a failure between the two writes leaves a closed trade
uncredited. The runs in which every close finds its row still OPEN when it writes
it, is told what became of that write, and has its credit applied conserve the book.
-/

import GdslExchange.Async.Protocol
import GdslExchange.Async.Settlement
import GdslExchange.Paper.Bot

namespace GdslExchange.Paper

open Async
open Protocol (Follows Stays ends phase_after_other phases_after sound)

/-! ### The property -/

/-- A close that takes effect: the trade, and the profit it is booked with. -/
def closing : Event paper → Option (ℕ × ℚ)
  | ⟨_, .closeTrade trade _ pnl, delivery, _⟩ =>
    if delivery.Applies then some (trade, pnl) else none
  | _ => none

/-- A credit that takes effect: the trade it is for, and its amount. -/
def crediting : Event paper → Option (ℕ × ℚ)
  | ⟨_, .creditPortfolio trade pnl, delivery, _⟩ =>
    if delivery.Applies then some (trade, pnl) else none
  | _ => none

/-- What the rest of the application moves into the portfolio. -/
def movement : Event paper → Option ℚ
  | ⟨_, .moveFunds amount, _, .ok _⟩ => some amount
  | _ => none

/-- The rows that are CLOSED now and were not before, where rows are only added. -/
def closedSince : List PaperTrade → List PaperTrade → List PaperTrade
  | _, [] => []
  | [], row :: rows => (if row.isOpen then [] else [row]) ++ closedSince [] rows
  | old :: olds, row :: rows =>
    (if old.isOpen ∧ ¬ row.isOpen then [row] else []) ++ closedSince olds rows

def closedPnl (before now : List PaperTrade) : ℚ :=
  ((closedSince before now).map fun row => row.pnl.getD 0).sum

/-- Where a caller stands with a close: it has not been told of a portfolio, it has, or it owes the
credit of a trade that it has closed. -/
inductive Phase where
  | idle
  | live
  | owes (trade : ℕ) (pnl : ℚ)

namespace Phase

def wake : Phase → Phase
  | idle => live
  | phase => phase

def owed : Phase → Option (ℕ × ℚ)
  | owes trade pnl => some (trade, pnl)
  | _ => none

end Phase

def nextPhase (phase : Phase) (op : Op) (reply : Except String (Result op)) : Phase :=
  match op, reply with
  | .findPortfolio, .ok (some _) => phase.wake
  | .createPortfolio, .ok _ => phase.wake
  | .fire _, .ok (some _) => phase.wake
  | .clearTimer, .ok (some _) => phase.wake
  | .closeTrade trade _ pnl, .ok _ => .owes trade pnl
  | .creditPortfolio _ _, _ => .live
  | _, _ => phase

/-- Trades are opened OPEN; a bot is installed and a trade is closed by a caller that knows of a
portfolio; and a trade is credited by the caller that has closed it. -/
def Permits (phase : Phase) : Op → Prop
  | .installBot _ _ => phase = .live
  | .createTrade _ data => data.isOpen = true
  | .closeTrade _ _ _ => phase = .live
  | .creditPortfolio trade pnl => phase = .owes trade pnl
  | _ => True

/-- How the calls go about a close. -/
def settling : Protocol paper Phase where
  start := .idle
  permits := Permits
  next := nextPhase

/-- The credit that a caller owes. -/
def owedBy (moment : Moment paper) (caller : ℕ) : Option (ℕ × ℚ) :=
  (settling.phase moment caller).owed

/-- Every trade is closed once and credited once, and whenever no close is under way the portfolio
has changed by what the trades closed since the start have made, and by what has been moved. -/
structure Conserves (start : Desk) (moment : Moment paper) : Prop where
  closedOnce : ((moment.log.filterMap closing).map Prod.fst).Nodup
  creditedOnce : ((moment.log.filterMap crediting).map Prod.fst).Nodup
  pnl : (∀ caller, owedBy moment caller = none) →
    moment.state.pnl = start.pnl + closedPnl start.trades moment.state.trades
  totalValue : (∀ caller, owedBy moment caller = none) →
    moment.state.totalValue = start.totalValue + closedPnl start.trades moment.state.trades +
      (moment.log.filterMap movement).sum

/-- A close finds its row still OPEN and is told what became of it, and a credit takes effect. -/
def SettlesAlone : Step paper → Prop
  | ⟨before, _, .closeTrade trade _ _, delivery⟩ =>
    delivery.Truthful ∧
      (delivery.Applies → before.state.trades[trade]?.map PaperTrade.isOpen = some true)
  | ⟨_, _, .creditPortfolio _ _, delivery⟩ => delivery.Applies
  | _ => True

/-! ### The calls -/

section Calls

variable (config : PaperConfig)

/-- Every operation but an installation, a close and a credit may be awaited by a caller that knows
of a portfolio, and it stays one. -/
def Plain : Op → Prop
  | .installBot _ _ => True
  | .createTrade _ data => data.isOpen = true
  | .closeTrade _ _ _ => False
  | .creditPortfolio _ _ => False
  | _ => True

theorem neutral_of_plain {op : Op} (plain : Plain op) : settling.Neutral .live op := by
  cases op with
  | createTrade opening data => exact ⟨plain, fun _ => rfl⟩
  | closeTrade trade exitPrice pnl => exact plain.elim
  | creditPortfolio trade pnl => exact plain.elim
  | installBot settings portfolio => exact ⟨rfl, fun _ => rfl⟩
  | findPortfolio =>
    refine ⟨trivial, fun reply => ?_⟩
    rcases reply with _ | _ | _ <;> rfl
  | createPortfolio =>
    refine ⟨trivial, fun reply => ?_⟩
    cases reply <;> rfl
  | fire bot =>
    refine ⟨trivial, fun reply => ?_⟩
    rcases reply with _ | _ | _ <;> rfl
  | clearTimer =>
    refine ⟨trivial, fun reply => ?_⟩
    rcases reply with _ | _ | _ <;> rfl
  | _ => exact ⟨trivial, fun _ => rfl⟩

theorem stays_await {op : Op} (plain : Plain op) : settling.Stays .live (await op) :=
  Stays.perform (neutral_of_plain plain)

theorem stays_log (kind : TradingLogKind) (message : String) :
    settling.Stays .live (log kind message) :=
  Stays.bind (stays_await trivial) fun _ => Stays.done ()

theorem stays_paperOpenPosition (opening : Opening) (pair : String) (entryAsk allocationUsd : ℚ) :
    settling.Stays .live (paperOpenPosition config opening pair entryAsk allocationUsd) := by
  refine Stays.bind (stays_await rfl) fun trade => ?_
  exact Stays.bind (stays_log _ _) fun _ => Stays.done _

/-- A close is credited by the next write of its caller. -/
theorem stays_settleClose (trade : ℕ) (exitExec pnl : ℚ) :
    settling.Stays .live (settleClose trade exitExec pnl) := by
  refine Follows.moves (fun _ => .owes trade pnl) rfl (fun _ => rfl) (fun _ => rfl) fun _ => ?_
  exact Follows.moves (fun _ => .live) rfl (fun _ => rfl) (fun _ => rfl) fun _ => Stays.done ()

theorem stays_paperClosePosition (trade : ℕ) (exitBid : ℚ) :
    settling.Stays .live (paperClosePosition config trade exitBid) := by
  refine Stays.bind (stays_await trivial) fun t => ?_
  cases t with
  | none => exact Stays.done none
  | some stored =>
    refine Stays.bind (stays_settleClose _ _ _) fun _ => ?_
    exact Stays.bind (stays_log _ _) fun _ => Stays.done _

theorem stays_afterExecution (bot : ℕ) : settling.Stays .live (afterExecution bot) := by
  refine Stays.bind (stays_await trivial) fun _ => ?_
  exact Stays.bind (stays_await trivial) fun _ => Stays.done ()

theorem stays_tickBuy (bot : ℕ) (settings : BotSettings) (pair : String)
    (ask allocationUsd : ℚ) :
    settling.Stays .live (tickBuy config bot settings pair ask allocationUsd) := by
  unfold tickBuy
  split
  · exact Stays.done ()
  · exact Stays.bind (stays_paperOpenPosition config _ _ _ _) fun _ =>
      stays_afterExecution bot

theorem stays_tickSell (bot : ℕ) (bid : ℚ) (openForPair : List (Stored PaperTrade)) :
    settling.Stays .live (tickSell config bot bid openForPair) := by
  cases openForPair with
  | nil => exact Stays.done ()
  | cons oldest later =>
    exact Stays.bind (stays_paperClosePosition config _ _) fun _ =>
      stays_afterExecution bot

theorem stays_logBlocked (signal : AISignalResult) (reason : String) :
    settling.Stays .live (logBlocked signal reason) := by
  unfold logBlocked
  split
  · exact stays_log _ _
  · exact Stays.done ()

theorem stays_tickSignal (bot : ℕ) (settings : BotSettings) (pair : String) (book : BookTicker)
    (totalValue : ℚ) (signal : AISignalResult) :
    settling.Stays .live (tickSignal config bot settings pair book totalValue signal) := by
  refine Stays.bind (stays_await trivial) fun openCount => ?_
  refine Stays.bind (stays_await trivial) fun openForPair => ?_
  refine Stays.bind (stays_await trivial) fun pnls => ?_
  refine Stays.bind (stays_await trivial) fun reading => ?_
  split
  · exact stays_logBlocked signal _
  · exact stays_tickBuy config bot settings pair _ _
  · exact stays_tickSell config bot _ _

theorem stays_observeEquity (bot : ℕ) (currentEquity : ℚ) :
    settling.Stays .live (observeEquity bot currentEquity) := by
  refine Stays.bind (stays_await trivial) fun newlyHalted => ?_
  split
  · exact stays_log _ _
  · exact Stays.done ()

theorem stays_logSignal (pair : String) (signal : Option AISignalResult) :
    settling.Stays .live (logSignal pair signal) := by
  cases signal with
  | none => exact Stays.done ()
  | some signal => exact stays_log _ _

section

variable (bot : ℕ) (settings : BotSettings)
include bot settings

theorem stays_tickBook (pair : String) (signal : Option AISignalResult) (book : BookTicker) :
    settling.Stays .live (tickBook config bot settings pair signal book) := by
  refine Stays.bind (stays_logSignal pair signal) fun _ => ?_
  refine Stays.bind (stays_await trivial) fun portfolio => ?_
  cases portfolio with
  | none => exact Stays.done ()
  | some portfolio =>
    refine Stays.bind (stays_observeEquity bot _) fun _ => ?_
    cases signal with
    | none => exact Stays.done ()
    | some signal => exact stays_tickSignal config bot settings pair book _ signal

theorem stays_tickPair (pair : String) :
    settling.Stays .live (tickPair config bot settings pair) := by
  refine Stays.bind (stays_await trivial) fun signal => ?_
  refine Stays.bind (stays_await trivial) fun book => ?_
  cases book with
  | none => exact Stays.done ()
  | some book => exact stays_tickBook config bot settings pair signal book

theorem stays_tick :
    settling.Stays .live (tick config bot settings) :=
  Stays.forEach fun pair => stays_tickPair config bot settings pair

theorem stays_probeRoundTrip (book : BookTicker) (total : ℚ) :
    settling.Stays .live (probeRoundTrip config bot settings book total) := by
  refine Stays.bind (stays_paperOpenPosition config _ _ _ _) fun created => ?_
  refine Stays.bind (stays_afterExecution bot) fun _ => ?_
  refine Stays.bind (stays_paperClosePosition config _ _) fun _ => ?_
  exact Stays.bind (stays_afterExecution bot) fun _ => stays_log _ _

theorem stays_runStartupProbe :
    settling.Stays .live (runStartupProbe config bot settings) := by
  refine Stays.bind (stays_await trivial) fun book => ?_
  cases book with
  | none => exact stays_log _ _
  | some book =>
    refine Stays.bind (stays_await trivial) fun portfolio => ?_
    dsimp only
    split
    · exact stays_log _ _
    · exact stays_probeRoundTrip config bot settings book _

theorem stays_probed :
    settling.Stays .live (probed config bot settings) :=
  Stays.recover (stays_runStartupProbe config bot settings) fun _ =>
    Stays.recover (stays_log _ _) fun _ => Stays.done ()

end

theorem stays_stopTrade (stored : Stored PaperTrade) :
    settling.Stays .live (stopTrade config stored) := by
  refine Stays.bind (stays_await trivial) fun book => ?_
  cases book with
  | none => exact Stays.done ()
  | some book =>
    exact Stays.bind (stays_paperClosePosition config _ _) fun _ => Stays.done ()

theorem stays_sessionSeconds (session : Option ℕ) :
    settling.Stays .live (sessionSeconds session) := by
  cases session with
  | none => exact Stays.done 0
  | some startedAt =>
    exact Stays.bind (stays_await trivial) fun _ => Stays.done _

/-! ### How the calls end -/

/-- A call ends without a debt. -/
abbrev Ended {Value : Type} : Except String Value → Phase → Prop :=
  @ends paper Phase Value (fun _ reached => reached.owed = none)
    fun reached => reached.owed = none

theorem ended_of_stays {Value : Type} {program : Call Value}
    (stays : settling.Stays .live program) : settling.Follows .live program Ended := by
  refine Follows.mono stays fun result reached same => ?_
  cases result <;> exact congrArg Phase.owed same

theorem follows_ensurePortfolio : settling.Follows .idle ensurePortfolio
    (ends (fun _ reached => reached = .live) fun reached => reached.owed = none) := by
  refine Follows.moves (fun found => if found.isSome then .live else .idle) trivial
    (fun found => ?_) (fun _ => rfl) fun found => ?_
  · cases found <;> rfl
  cases found with
  | some portfolio => exact rfl
  | none => exact Follows.perform trivial (fun _ => rfl) fun _ => rfl

theorem follows_start (request : StartRequest) :
    settling.Follows .idle (start config request) Ended := by
  refine Follows.moves (fun _ => .idle) trivial (fun _ => rfl) (fun _ => rfl) fun running => ?_
  refine Follows.throwIf (fun _ => rfl) fun _ => ?_
  refine Follows.bind follows_ensurePortfolio fun portfolio reached isLive => ?_
  rw [isLive]
  refine ended_of_stays (Stays.bind (stays_await trivial) fun bot => ?_)
  refine Stays.bind (stays_log _ _) fun _ => ?_
  refine Stays.bind (stays_probed config bot _) fun _ => ?_
  exact Stays.recover (stays_tick config bot _) fun _ => Stays.done ()

theorem follows_stop : settling.Follows .idle (stop config) Ended := by
  refine Follows.moves (fun running => if running.isSome then .live else .idle) trivial
    (fun running => ?_) (fun _ => rfl) fun running => ?_
  · cases running <;> rfl
  refine Follows.orThrow (fun absent => ?_) fun bot present => ?_
  · rw [absent]
    rfl
  · rw [present]
    refine ended_of_stays (Stays.bind (stays_await trivial) fun openTrades => ?_)
    refine Stays.bind (Stays.forEach (stays_stopTrade config)) fun _ => ?_
    refine Stays.bind (stays_await trivial) fun session => ?_
    refine Stays.bind (stays_sessionSeconds session) fun sessionDuration => ?_
    refine Stays.bind (stays_await trivial) fun totalTrades => ?_
    refine Stays.bind (stays_await trivial) fun _ => ?_
    exact Stays.bind (stays_log _ _) fun _ => Stays.done _

theorem follows_intervalTick (bot : ℕ) :
    settling.Follows .idle (intervalTick config bot) Ended := by
  refine Follows.moves (fun fired => if fired.isSome then .live else .idle) trivial
    (fun fired => ?_) (fun _ => rfl) fun fired => ?_
  · cases fired <;> rfl
  cases fired with
  | none => exact rfl
  | some settings =>
    exact ended_of_stays (Stays.recover (stays_tick config bot settings) fun _ =>
      Stays.done ())

/-- Every call goes about its closes one at a time, and ends without a debt. -/
theorem follows_call (request : Request) :
    settling.Follows .idle (request.call config) Ended := by
  cases request with
  | start request => exact follows_start config request
  | stop =>
    exact Follows.bind (follows_stop config) fun _ reached ended => ended
  | interval bot => exact follows_intervalTick config bot
  | moveFunds amount => exact Follows.perform trivial (fun _ => rfl) fun _ => rfl

end Calls

/-! ### The rows that a run closes -/

section Rows

variable {before now : List PaperTrade}

variable {row : PaperTrade}

theorem closedPnl_cons {old : PaperTrade} {olds rows : List PaperTrade} :
    closedPnl (old :: olds) (row :: rows) =
      (if old.isOpen ∧ ¬ row.isOpen then row.pnl.getD 0 else 0) + closedPnl olds rows := by
  rw [closedPnl, closedSince, List.map_append, List.sum_append, ← closedPnl]
  congr 1
  split <;> simp

theorem closedPnl_nil_cons {rows : List PaperTrade} :
    closedPnl [] (row :: rows) =
      (if row.isOpen then 0 else row.pnl.getD 0) + closedPnl [] rows := by
  rw [closedPnl, closedSince, List.map_append, List.sum_append, ← closedPnl]
  congr 1
  split <;> simp

theorem closedPnl_self : closedPnl now now = 0 := by
  induction now with
  | nil => rfl
  | cons row rows inductionHypothesis =>
    rw [closedPnl_cons, inductionHypothesis, if_neg fun both => both.2 both.1, add_zero]

theorem closedPnl_append (isOpen : row.isOpen = true) :
    closedPnl before (now ++ [row]) = closedPnl before now := by
  induction now generalizing before with
  | nil =>
    cases before with
    | nil => rw [List.nil_append, closedPnl_nil_cons, if_pos isOpen, zero_add]
    | cons old olds =>
      rw [List.nil_append, closedPnl_cons, if_neg fun both => both.2 isOpen, zero_add]
      cases olds <;> rfl
  | cons first rows inductionHypothesis =>
    cases before with
    | nil => rw [List.cons_append, closedPnl_nil_cons, closedPnl_nil_cons, inductionHypothesis]
    | cons old olds => rw [List.cons_append, closedPnl_cons, closedPnl_cons, inductionHypothesis]

theorem closedPnl_close {trade : ℕ} {exitPrice pnl : ℚ} (found : now[trade]? = some row)
    (isOpen : row.isOpen = true) (notBefore : ∀ old ∈ before[trade]?, old.isOpen = true) :
    closedPnl before (now.modify trade fun row => row.close exitPrice pnl) =
      closedPnl before now + pnl := by
  induction now generalizing before trade with
  | nil => cases found
  | cons first rows inductionHypothesis =>
    cases trade with
    | zero =>
      cases found
      have isClosed : ¬ (row.close exitPrice pnl).isOpen = true := Bool.false_ne_true
      rw [List.modify_zero_cons]
      cases before with
      | nil =>
        rw [closedPnl_nil_cons, closedPnl_nil_cons, if_neg isClosed, if_pos isOpen]
        show pnl + _ = _
        ring
      | cons old olds =>
        rw [closedPnl_cons, closedPnl_cons, if_pos ⟨notBefore old rfl, isClosed⟩,
          if_neg fun both => both.2 isOpen]
        show pnl + _ = _
        ring
    | succ trade =>
      rw [List.modify_succ_cons]
      cases before with
      | nil =>
        rw [closedPnl_nil_cons, closedPnl_nil_cons,
          inductionHypothesis found fun old impossible => by cases impossible]
        ring
      | cons old olds =>
        rw [closedPnl_cons, closedPnl_cons, inductionHypothesis found notBefore]
        ring

end Rows

/-! ### What a run keeps -/

/-- The books of a moment: every close has been credited or is owed by its caller, the rows and the
portfolio are what the closes and credits make of the start, rows stay closed, and only callers
that know of a portfolio have anything to do with closes. -/
structure Balanced (start : Desk) (phases : ℕ → Phase) (moment : Moment paper) : Prop where
  settlement : Settlement (fun caller => (phases caller).owed) (moment.log.filterMap closing)
    (moment.log.filterMap crediting)
  closed : ∀ entry ∈ moment.log.filterMap closing,
    ∃ row : PaperTrade, moment.state.trades[entry.1]? = some row ∧ row.isOpen = false
  stillClosed : ∀ (trade : ℕ) (old : PaperTrade), start.trades[trade]? = some old →
    old.isOpen = false → ∃ row : PaperTrade, moment.state.trades[trade]? = some row ∧ row.isOpen = false
  closedPnl : closedPnl start.trades moment.state.trades =
    ((moment.log.filterMap closing).map Prod.snd).sum
  pnl : moment.state.pnl = start.pnl + ((moment.log.filterMap crediting).map Prod.snd).sum
  totalValue : moment.state.totalValue = start.totalValue +
    ((moment.log.filterMap crediting).map Prod.snd).sum + (moment.log.filterMap movement).sum
  funded : (∃ caller, phases caller ≠ .idle) → moment.state.portfolio.isSome = true
  botsFunded : moment.state.bots ≠ [] → moment.state.portfolio.isSome = true
  running : moment.state.running ≠ none → moment.state.bots ≠ []

/-! ### What a step does to the books -/

/-- The operations that write no row. -/
def Reads : Op → Prop
  | .createPortfolio => False
  | .creditPortfolio _ _ => False
  | .moveFunds _ => False
  | .createTrade _ _ => False
  | .closeTrade _ _ _ => False
  | _ => True

theorem rows_of_reads {op : Op} (reads : Reads op) (fate : Fate op) (desk : Desk) :
    (perform op fate desk).1.trades = desk.trades ∧
      (perform op fate desk).1.portfolio = desk.portfolio := by
  cases op with
  | clearTimer =>
    show (desk.running.elim desk fun bot => desk.onBot bot _).trades = desk.trades ∧
      (desk.running.elim desk fun bot => desk.onBot bot _).portfolio = desk.portfolio
    cases desk.running <;> exact ⟨rfl, rfl⟩
  | fire bot =>
    dsimp only [perform, withBot]
    split <;> exact ⟨rfl, rfl⟩
  | observe bot currentEquity =>
    dsimp only [perform, withBot]
    split <;> exact ⟨rfl, rfl⟩
  | readBot bot =>
    dsimp only [perform, withBot]
    split <;> exact ⟨rfl, rfl⟩
  | stampExecution bot =>
    dsimp only [perform, withBot]
    split <;> exact ⟨rfl, rfl⟩
  | createPortfolio => exact reads.elim
  | creditPortfolio trade pnl => exact reads.elim
  | moveFunds amount => exact reads.elim
  | createTrade opening data => exact reads.elim
  | closeTrade trade exitPrice pnl => exact reads.elim
  | _ => exact ⟨rfl, rfl⟩

/-- There are as many bots as before, and the same one runs, or none. -/
structure SameBots (before after : Desk) : Prop where
  count : after.bots.length = before.bots.length
  running : after.running = before.running ∨ after.running = none

theorem SameBots.refl (desk : Desk) : SameBots desk desk := ⟨rfl, Or.inl rfl⟩

theorem sameBots_onBot (desk : Desk) (bot : ℕ) (change : BotInstance → BotInstance) :
    SameBots desk (desk.onBot bot change) := ⟨List.length_modify .., Or.inl rfl⟩

theorem sameBots_withBot {Answer : Type} (desk : Desk) (bot : ℕ)
    (change : BotInstance → BotInstance) (answer : BotInstance → Answer) :
    SameBots desk (withBot desk bot change answer).1 := by
  unfold withBot
  split
  · exact sameBots_onBot desk bot change
  · exact SameBots.refl desk

variable {Row : Type} {after : Desk}

theorem sameBots_write {before : Desk} (same : SameBots before after) (delivery : Delivery)
    (written : Row) :
    SameBots before (delivery.write before after written).1 := by
  unfold Delivery.write
  split
  · exact same
  · exact SameBots.refl before

theorem sameBots_perform {op : Op}
    (other : ∀ settings portfolio, op ≠ .installBot settings portfolio) (fate : Fate op)
    (desk : Desk) : SameBots desk (perform op fate desk).1 := by
  cases op with
  | installBot settings portfolio => exact absurd rfl (other settings portfolio)
  | removeBot => exact ⟨rfl, Or.inr rfl⟩
  | clearTimer =>
    show SameBots desk (desk.running.elim desk fun bot => desk.onBot bot _)
    cases desk.running with
    | none => exact SameBots.refl desk
    | some bot => exact sameBots_onBot desk bot _
  | fire bot => exact sameBots_withBot desk bot _ _
  | observe bot currentEquity => exact sameBots_withBot desk bot _ _
  | readBot bot => exact sameBots_withBot desk bot _ _
  | stampExecution bot => exact sameBots_withBot desk bot _ _
  | createPortfolio =>
    dsimp only [perform]
    split
    · exact SameBots.refl desk
    · refine sameBots_write ?_ fate _
      exact ⟨rfl, Or.inl rfl⟩
  | creditPortfolio trade pnl =>
    dsimp only [perform]
    split
    · refine sameBots_write ?_ fate _
      exact ⟨rfl, Or.inl rfl⟩
    · exact SameBots.refl desk
  | moveFunds amount =>
    dsimp only [perform]
    split
    · exact ⟨rfl, Or.inl rfl⟩
    · exact SameBots.refl desk
  | createTrade opening data =>
    refine sameBots_write ?_ fate _
    exact ⟨rfl, Or.inl rfl⟩
  | closeTrade trade exitPrice pnl =>
    dsimp only [perform]
    split
    · refine sameBots_write ?_ fate _
      exact ⟨rfl, Or.inl rfl⟩
    · exact SameBots.refl desk
  | _ => exact SameBots.refl desk

/-- Rows and portfolio go on as they were, but for an amount that is moved. -/
structure Carries (start before after : Desk) (moved : ℚ) : Prop where
  rows : ∀ (trade : ℕ) (row : PaperTrade), before.trades[trade]? = some row →
    after.trades[trade]? = some row
  closedPnl : closedPnl start.trades after.trades = closedPnl start.trades before.trades
  pnl : after.pnl = before.pnl
  totalValue : after.totalValue = before.totalValue + moved
  portfolio : before.portfolio.isSome = true → after.portfolio.isSome = true

theorem carries_of_same {start before : Desk} (trades : after.trades = before.trades)
    (portfolio : after.portfolio = before.portfolio) : Carries start before after 0 where
  rows trade row found := by
    rw [trades]
    exact found
  closedPnl := by rw [trades]
  pnl := by
    unfold Desk.pnl
    rw [portfolio]
  totalValue := by
    unfold Desk.totalValue
    rw [portfolio, add_zero]
  portfolio isSome := by
    rw [portfolio]
    exact isSome

theorem carries_write {start before : Desk} (carries : Carries start before after 0)
    (delivery : Delivery) (written : Row) :
    Carries start before (delivery.write before after written).1 0 := by
  unfold Delivery.write
  split
  · exact carries
  · exact carries_of_same rfl rfl

/-- An operation that is neither a close nor a credit. -/
def Aside : Op → Prop
  | .closeTrade _ _ _ => False
  | .creditPortfolio _ _ => False
  | _ => True

def moved (step : Step paper) : ℚ := (movement step.event).getD 0

theorem carries_of_reads {start : Desk} {step : Step paper} (reads : Reads step.op) :
    Carries start step.before.state step.after.state (moved step) := by
  have same := rows_of_reads reads step.fate step.before.state
  have still : moved step = 0 := by
    obtain ⟨before, caller, op, fate⟩ := step
    cases op with
    | moveFunds amount => exact reads.elim
    | _ => rfl
  rw [still]
  exact carries_of_same same.1 same.2

/-- What is neither a close nor a credit carries the rows and the portfolio on. -/
theorem carries_after {start : Desk} {phase : Phase} {step : Step paper}
    (permitted : Permits phase step.op) (aside : Aside step.op) :
    Carries start step.before.state step.after.state (moved step) := by
  obtain ⟨before, caller, op, fate⟩ := step
  cases op with
  | closeTrade trade exitPrice pnl => exact aside.elim
  | creditPortfolio trade pnl => exact aside.elim
  | createPortfolio =>
    show Carries start before.state (perform .createPortfolio fate before.state).1 0
    dsimp only [perform]
    split
    · exact carries_of_same rfl rfl
    · next present =>
      have absent := Option.not_isSome_iff_eq_none.mp present
      refine carries_write ?_ fate _
      refine ⟨fun trade row found => found, rfl, ?_, ?_, fun _ => rfl⟩
      · unfold Desk.pnl
        rw [absent]
        rfl
      · unfold Desk.totalValue
        rw [absent, add_zero]
        rfl
  | createTrade opening data =>
    refine carries_write ?_ fate before.state.trades.length
    refine ⟨fun trade row found => ?_, closedPnl_append permitted, rfl, (add_zero _).symm, id⟩
    rw [List.getElem?_append_left (List.getElem?_eq_some_iff.mp found).1]
    exact found
  | moveFunds amount =>
    show Carries start before.state (perform (.moveFunds amount) fate before.state).1
      ((movement ⟨caller, .moveFunds amount, fate,
        (perform (.moveFunds amount) fate before.state).2⟩).getD 0)
    cases held : before.state.portfolio with
    | none =>
      have refused : perform (.moveFunds amount) fate before.state =
          (before.state, .error notFound) := by
        simp only [perform, held, Option.isSome_none, Bool.false_eq_true, if_false]
      rw [refused]
      exact carries_of_same rfl rfl
    | some portfolio =>
      have accepted : perform (.moveFunds amount) fate before.state =
          (before.state.move amount, .ok ()) := by
        simp only [perform, held, Option.isSome_some, if_true]
      rw [accepted]
      refine ⟨fun trade row found => found, rfl, ?_, ?_, fun _ => ?_⟩
      · unfold Desk.pnl Desk.move
        rw [held]
        rfl
      · unfold Desk.totalValue Desk.move
        rw [held]
        rfl
      · unfold Desk.move
        rw [held]
        rfl
  | _ => exact carries_of_reads trivial

/-! ### What a step keeps -/

theorem owed_wake (phase : Phase) : phase.wake.owed = phase.owed := by
  cases phase <;> rfl

theorem owed_next_of_aside {phase : Phase} {op : Op} {reply : Except String (Result op)}
    (aside : Aside op) : (nextPhase phase op reply).owed = phase.owed := by
  cases op with
  | closeTrade trade exitPrice pnl => exact aside.elim
  | creditPortfolio trade pnl => exact aside.elim
  | findPortfolio =>
    rcases reply with _ | _ | _
    · rfl
    · rfl
    · exact owed_wake phase
  | createPortfolio =>
    cases reply with
    | error failure => rfl
    | ok created => exact owed_wake phase
  | fire bot =>
    rcases reply with _ | _ | _
    · rfl
    · rfl
    · exact owed_wake phase
  | clearTimer =>
    rcases reply with _ | _ | _
    · rfl
    · rfl
    · exact owed_wake phase
  | _ => rfl

theorem reply_eq_ok {delivery : Delivery} {answer told : Row}
    (answered : delivery.reply answer = .ok told) : answer = told := by
  cases delivery with
  | answered =>
    cases answered
    rfl
  | refused message => cases answered
  | lost message => cases answered

theorem owed_update (phases : ℕ → Phase) (caller : ℕ) (phase : Phase) :
    (fun other => (Function.update phases caller phase other).owed) =
      Function.update (fun other => (phases other).owed) caller phase.owed := by
  funext other
  exact Function.apply_update (fun _ => Phase.owed) phases caller phase other

theorem closing_of_aside {event : Event paper} (aside : Aside event.op) : closing event = none := by
  obtain ⟨caller, op, fate, reply⟩ := event
  cases op with
  | closeTrade trade exitPrice pnl => exact aside.elim
  | _ => rfl

theorem crediting_of_aside {event : Event paper} (aside : Aside event.op) :
    crediting event = none := by
  obtain ⟨caller, op, fate, reply⟩ := event
  cases op with
  | creditPortfolio trade pnl => exact aside.elim
  | _ => rfl

theorem movements_after (step : Step paper) :
    (step.after.log.filterMap movement).sum =
      moved step + (step.before.log.filterMap movement).sum := by
  show ((step.event :: step.before.log).filterMap movement).sum = _
  unfold moved
  rw [List.filterMap_cons]
  cases movement step.event with
  | none => exact (zero_add _).symm
  | some amount => exact List.sum_cons

section Keeps

variable {start : Desk} {phases : ℕ → Phase} {step : Step paper}
  (balanced : Balanced start phases step.before)
include balanced

/-- Who is told of a portfolio, a bot or a running one is told so of a user with a portfolio. -/
theorem Balanced.known (wakes : nextPhase .idle step.op step.reply ≠ .idle)
    (aside : Aside step.op) : step.after.state.portfolio.isSome = true := by
  obtain ⟨before, caller, op, fate⟩ := step
  cases op with
  | closeTrade trade exitPrice pnl => exact aside.elim
  | creditPortfolio trade pnl => exact aside.elim
  | findPortfolio =>
    cases told : Delivery.reply fate before.state.portfolio with
    | error failure =>
      exact absurd (congrArg (nextPhase .idle .findPortfolio) told) fun same => wakes same
    | ok found =>
      cases found with
      | none => exact absurd (congrArg (nextPhase .idle .findPortfolio) told) fun same => wakes same
      | some portfolio =>
        show before.state.portfolio.isSome = true
        rw [reply_eq_ok told]
        rfl
  | createPortfolio =>
    by_cases present : before.state.portfolio.isSome = true
    · have taken : (perform .createPortfolio fate before.state).2 = _ :=
        congrArg Prod.snd (if_pos present)
      exact absurd (congrArg (nextPhase .idle .createPortfolio) taken) fun same => wakes same
    · have created : perform .createPortfolio fate before.state = _ := if_neg present
      show (perform .createPortfolio fate before.state).1.portfolio.isSome = true
      rw [created]
      cases fate with
      | answered => rfl
      | refused message =>
        exact absurd (congrArg (nextPhase .idle .createPortfolio) (congrArg Prod.snd created))
          fun same => wakes same
      | lost message => rfl
  | fire bot =>
    show (perform (.fire bot) fate before.state).1.portfolio.isSome = true
    rw [(@rows_of_reads (.fire bot) trivial fate before.state).2]
    cases held : before.state.bots[bot]? with
    | none =>
      have refused : (perform (.fire bot) fate before.state).2 = .error "no such bot" := by
        simp only [perform, withBot, held]
      exact absurd (congrArg (nextPhase .idle (.fire bot)) refused) fun same => wakes same
    | some found =>
      exact balanced.botsFunded (List.ne_nil_of_mem (List.mem_of_getElem? held))
  | clearTimer =>
    show (perform .clearTimer fate before.state).1.portfolio.isSome = true
    rw [(@rows_of_reads .clearTimer trivial fate before.state).2]
    cases runs : before.state.running with
    | none =>
      have nobody : (perform .clearTimer fate before.state).2 = .ok none := congrArg Except.ok runs
      exact absurd (congrArg (nextPhase .idle .clearTimer) nobody) fun same => wakes same
    | some bot =>
      refine balanced.botsFunded (balanced.running ?_)
      show before.state.running ≠ none
      rw [runs]
      exact Option.some_ne_none bot
  | _ => exact absurd rfl wakes

theorem Balanced.knownAfter (aside : Aside step.op)
    (carries : Carries start step.before.state step.after.state (moved step))
    (woken : ∃ caller, Function.update phases step.caller
      (nextPhase (phases step.caller) step.op step.reply) caller ≠ .idle) :
    step.after.state.portfolio.isSome = true := by
  obtain ⟨caller, woken⟩ := woken
  by_cases itself : caller = step.caller
  · rw [itself, Function.update_self] at woken
    cases isPhase : phases step.caller with
    | idle =>
      rw [isPhase] at woken
      exact balanced.known woken aside
    | live =>
      refine carries.portfolio (balanced.funded ⟨step.caller, ?_⟩)
      rw [isPhase]
      exact Phase.noConfusion
    | owes trade pnl =>
      refine carries.portfolio (balanced.funded ⟨step.caller, ?_⟩)
      rw [isPhase]
      exact Phase.noConfusion
  · rw [Function.update_of_ne itself] at woken
    exact carries.portfolio (balanced.funded ⟨caller, woken⟩)

theorem Balanced.botsAfter (permitted : Permits (phases step.caller) step.op)
    (kept : step.before.state.portfolio.isSome = true → step.after.state.portfolio.isSome = true) :
    (step.after.state.bots ≠ [] → step.after.state.portfolio.isSome = true) ∧
      (step.after.state.running ≠ none → step.after.state.bots ≠ []) := by
  obtain ⟨before, caller, op, fate⟩ := step
  by_cases installs : ∃ settings portfolio, op = .installBot settings portfolio
  · obtain ⟨settings, portfolio, rfl⟩ := installs
    refine ⟨fun _ => kept (balanced.funded ⟨caller, ?_⟩), fun _ => ?_⟩
    · rw [show phases caller = .live from permitted]
      exact Phase.noConfusion
    · exact List.append_ne_nil_of_right_ne_nil _ (List.cons_ne_nil _ _)
  · have same : SameBots before.state (Step.mk before caller op fate).after.state :=
      sameBots_perform (fun settings portfolio isInstall =>
        installs ⟨settings, portfolio, isInstall⟩) fate before.state
    have nonempty : (Step.mk before caller op fate).after.state.bots ≠ [] ↔
        before.state.bots ≠ [] := by
      rw [← List.length_pos_iff_ne_nil, ← List.length_pos_iff_ne_nil, same.count]
    refine ⟨fun some_ => kept (balanced.botsFunded (nonempty.mp some_)), fun runs => ?_⟩
    refine nonempty.mpr (balanced.running ?_)
    obtain still | gone := same.running
    · rw [still] at runs
      exact runs
    · exact absurd gone runs

theorem Balanced.frame (permitted : Permits (phases step.caller) step.op)
    (closes : closing step.event = none) (credits : crediting step.event = none)
    (carries : Carries start step.before.state step.after.state (moved step)) {phase : Phase}
    (sameDebt : phase.owed = (phases step.caller).owed)
    (funded : (∃ caller, Function.update phases step.caller phase caller ≠ .idle) →
      step.after.state.portfolio.isSome = true) :
    Balanced start (Function.update phases step.caller phase) step.after := by
  have closings : step.after.log.filterMap closing = step.before.log.filterMap closing :=
    List.filterMap_cons_none closes
  have creditings : step.after.log.filterMap crediting = step.before.log.filterMap crediting :=
    List.filterMap_cons_none credits
  obtain ⟨botsFunded, running⟩ := balanced.botsAfter permitted carries.portfolio
  refine ⟨?_, ?_, ?_, ?_, ?_, ?_, funded, botsFunded, running⟩
  · rw [owed_update, sameDebt, Function.update_eq_self, closings, creditings]
    exact balanced.settlement
  · intro entry member
    rw [closings] at member
    obtain ⟨row, found, isClosed⟩ := balanced.closed entry member
    exact ⟨row, carries.rows _ row found, isClosed⟩
  · intro trade old found isClosed
    obtain ⟨row, foundNow, stillClosed⟩ := balanced.stillClosed trade old found isClosed
    exact ⟨row, carries.rows _ row foundNow, stillClosed⟩
  · rw [carries.closedPnl, closings]
    exact balanced.closedPnl
  · rw [carries.pnl, creditings]
    exact balanced.pnl
  · rw [carries.totalValue, creditings, movements_after, balanced.totalValue]
    ring

/-- What is neither a close nor a credit keeps the books balanced. -/
theorem Balanced.aside (permitted : Permits (phases step.caller) step.op) (aside : Aside step.op) :
    Balanced start (Function.update phases step.caller
      (nextPhase (phases step.caller) step.op step.reply)) step.after := by
  have carries : Carries start step.before.state step.after.state (moved step) :=
    carries_after permitted aside
  exact balanced.frame permitted (closing_of_aside aside) (crediting_of_aside aside) carries
    (owed_next_of_aside aside) (balanced.knownAfter aside carries)

end Keeps

variable {caller trade : ℕ} {pnl : ℚ}

theorem Balanced.close {start : Desk} {phases : ℕ → Phase} {before : Moment paper}
    (balanced : Balanced start phases before) {exitPrice : ℚ} {row : PaperTrade}
    (isLive : phases caller = .live) (found : before.state.trades[trade]? = some row)
    (isOpen : row.isOpen = true) :
    Balanced start (Function.update phases caller (.owes trade pnl))
      (Step.mk before caller (.closeTrade trade exitPrice pnl) .answered).after := by
  set step : Step paper := ⟨before, caller, .closeTrade trade exitPrice pnl, .answered⟩ with stepIs
  have inside : trade < before.state.trades.length := (List.getElem?_eq_some_iff.mp found).1
  have state : step.after.state = before.state.closing trade exitPrice pnl :=
    congrArg Prod.fst (if_pos inside)
  have closings : step.after.log.filterMap closing =
      (trade, pnl) :: before.log.filterMap closing := List.filterMap_cons_some rfl
  have creditings : step.after.log.filterMap crediting = before.log.filterMap crediting :=
    List.filterMap_cons_none rfl
  have elsewhere : ∀ (other : ℕ) (old : PaperTrade), before.state.trades[other]? = some old →
      old.isOpen = false → step.after.state.trades[other]? = some old := by
    intro other old foundOther isClosed
    have different : trade ≠ other := by
      rintro rfl
      rw [found] at foundOther
      cases foundOther
      rw [isOpen] at isClosed
      cases isClosed
    rw [state]
    show (before.state.trades.modify trade _)[other]? = _
    rw [List.getElem?_modify_ne _ _ different, foundOther]
  have fresh : trade ∉ (before.log.filterMap closing).map Prod.fst := by
    intro member
    obtain ⟨entry, memberEntry, rfl⟩ := List.mem_map.mp member
    obtain ⟨old, foundOld, isClosed⟩ := balanced.closed entry memberEntry
    rw [found] at foundOld
    cases foundOld
    rw [isOpen] at isClosed
    cases isClosed
  have hasPortfolio : before.state.portfolio.isSome = true :=
    balanced.funded ⟨caller, by rw [isLive]; exact Phase.noConfusion⟩
  refine ⟨?_, ?_, ?_, ?_, ?_, ?_, ?_, ?_, ?_⟩
  · rw [owed_update, closings, creditings]
    refine balanced.settlement.post ?_ fresh
    rw [isLive]
    rfl
  · intro entry member
    rw [closings] at member
    obtain rfl | earlier := List.mem_cons.mp member
    · refine ⟨row.close exitPrice pnl, ?_, rfl⟩
      rw [state]
      show (before.state.trades.modify trade _)[trade]? = _
      rw [List.getElem?_modify_eq, found]
      rfl
    · obtain ⟨old, foundOld, isClosed⟩ := balanced.closed entry earlier
      exact ⟨old, elsewhere _ old foundOld isClosed, isClosed⟩
  · intro other old foundOld isClosed
    obtain ⟨now, foundNow, stillClosed⟩ := balanced.stillClosed other old foundOld isClosed
    exact ⟨now, elsewhere _ now foundNow stillClosed, stillClosed⟩
  · rw [state, closings]
    refine (closedPnl_close found isOpen fun old foundOld => ?_).trans ?_
    · by_contra wasClosed
      obtain ⟨now, foundNow, stillClosed⟩ := balanced.stillClosed trade old foundOld
        (Bool.not_eq_true _ ▸ wasClosed)
      rw [found] at foundNow
      cases foundNow
      rw [isOpen] at stillClosed
      cases stillClosed
    · rw [balanced.closedPnl, List.map_cons, List.sum_cons, add_comm]
  · rw [state, creditings]
    exact balanced.pnl
  · rw [state, creditings]
    exact balanced.totalValue
  · intro _
    rw [state]
    exact hasPortfolio
  · intro _
    rw [state]
    exact hasPortfolio
  · rw [state]
    exact balanced.running

theorem Balanced.credit {start : Desk} {phases : ℕ → Phase} {before : Moment paper}
    (balanced : Balanced start phases before) {delivery : Delivery}
    (owes : phases caller = .owes trade pnl) (applies : delivery.Applies) :
    Balanced start (Function.update phases caller .live)
      (Step.mk before caller (.creditPortfolio trade pnl) delivery).after := by
  set step : Step paper := ⟨before, caller, .creditPortfolio trade pnl, delivery⟩ with stepIs
  have hasPortfolio : before.state.portfolio.isSome = true :=
    balanced.funded ⟨caller, by rw [owes]; exact Phase.noConfusion⟩
  have state : step.after.state = before.state.credit pnl := by
    have written : step.after.state =
        (delivery.write before.state (before.state.credit pnl) ()).1 :=
      congrArg Prod.fst (if_pos hasPortfolio)
    rw [written]
    exact if_pos applies
  have closings : step.after.log.filterMap closing = before.log.filterMap closing :=
    List.filterMap_cons_none rfl
  have creditings : step.after.log.filterMap crediting =
      (trade, pnl) :: before.log.filterMap crediting := List.filterMap_cons_some (if_pos applies)
  have stillFunded : step.after.state.portfolio.isSome = true := by
    rw [state]
    exact Option.isSome_map.trans hasPortfolio
  obtain ⟨portfolio, held⟩ := Option.isSome_iff_exists.mp hasPortfolio
  refine ⟨?_, ?_, ?_, ?_, ?_, ?_, fun _ => stillFunded, fun _ => stillFunded, ?_⟩
  · rw [owed_update, closings, creditings]
    refine balanced.settlement.settle ?_
    rw [owes]
    rfl
  · rw [closings, state]
    exact balanced.closed
  · rw [state]
    exact balanced.stillClosed
  · rw [closings, state]
    exact balanced.closedPnl
  · have grown : (before.state.credit pnl).pnl = before.state.pnl + pnl := by
      unfold Desk.pnl Desk.credit
      rw [held]
      rfl
    rw [state, creditings, grown, balanced.pnl, List.map_cons, List.sum_cons]
    ring
  · have grown : (before.state.credit pnl).totalValue = before.state.totalValue + pnl := by
      unfold Desk.totalValue Desk.credit
      rw [held]
      rfl
    have still : moved step = 0 := rfl
    rw [state, creditings, movements_after, still, grown, balanced.totalValue, List.map_cons,
      List.sum_cons]
    ring
  · rw [state]
    exact balanced.running

theorem perform_refused (trade : ℕ) (exitPrice pnl : ℚ) (message : String) (desk : Desk) :
    ∃ told, perform (.closeTrade trade exitPrice pnl) (.refused message) desk =
      (desk, .error told) := by
  dsimp only [perform]
  split
  · exact ⟨message, rfl⟩
  · exact ⟨notFound, rfl⟩

theorem Balanced.refuse {start : Desk} {phases : ℕ → Phase} {before : Moment paper}
    (balanced : Balanced start phases before) {exitPrice : ℚ} {message : String}
    (isLive : phases caller = .live) :
    let step : Step paper := ⟨before, caller, .closeTrade trade exitPrice pnl, .refused message⟩
    Balanced start (Function.update phases caller
      (nextPhase (phases caller) step.op step.reply)) step.after := by
  intro step
  obtain ⟨told, refused⟩ := perform_refused trade exitPrice pnl message before.state
  have state : step.after.state = before.state := congrArg Prod.fst refused
  have reply : step.reply = .error told := congrArg Prod.snd refused
  have hasPortfolio : before.state.portfolio.isSome = true :=
    balanced.funded ⟨caller, by rw [isLive]; exact Phase.noConfusion⟩
  rw [reply]
  have carries : Carries start before.state step.after.state (moved step) := by
    rw [state]
    exact carries_of_same rfl rfl
  refine @Balanced.frame start phases step balanced isLive rfl rfl carries _ rfl fun _ => ?_
  rw [state]
  exact hasPortfolio

/-! ### Every run -/

theorem balanced_keeps (start : Desk) : settling.Keeps SettlesAlone
    fun moment => Balanced start (settling.phase moment) moment := by
  intro step permitted alone balanced
  have phases := @phases_after paper Phase settling step
  rw [phases]
  by_cases aside : Aside step.op
  · exact balanced.aside permitted aside
  · obtain ⟨before, caller, op, fate⟩ := step
    cases op with
    | closeTrade trade exitPrice pnl =>
      obtain ⟨truthful, opens⟩ := alone
      cases fate with
      | answered =>
        obtain ⟨row, found, isOpen⟩ := Option.map_eq_some_iff.mp (opens trivial)
        have inside : trade < before.state.trades.length := (List.getElem?_eq_some_iff.mp found).1
        have answered : (Step.mk before caller (.closeTrade trade exitPrice pnl) .answered).reply =
            .ok () := congrArg Prod.snd (if_pos inside)
        rw [answered]
        exact balanced.close permitted found isOpen
      | refused message => exact balanced.refuse permitted
      | lost message => exact truthful.elim
    | creditPortfolio trade pnl => exact balanced.credit permitted alone
    | _ => exact absurd trivial aside

theorem balanced_start (start : Desk) (noBots : start.bots = [])
    (notRunning : start.running = none) :
    Balanced start (settling.phase ⟨start, []⟩) ⟨start, []⟩ where
  settlement := Settlement.start fun _ => rfl
  closed entry member := (List.not_mem_nil member).elim
  stillClosed trade old found isClosed := ⟨old, found, isClosed⟩
  closedPnl := closedPnl_self
  pnl := (add_zero _).symm
  totalValue := by
    show start.totalValue = start.totalValue + 0 + 0
    rw [add_zero, add_zero]
  funded := fun ⟨_, awake⟩ => absurd rfl awake
  botsFunded some_ := absurd noBots some_
  running runs := absurd notRunning runs

theorem conserves_of_balanced {start : Desk} {moment : Moment paper}
    (balanced : Balanced start (settling.phase moment) moment) : Conserves start moment where
  closedOnce := balanced.settlement.postedOnce
  creditedOnce := balanced.settlement.settledOnce
  pnl idle := by
    rw [balanced.pnl, balanced.closedPnl, balanced.settlement.sum_eq_of_idle idle]
  totalValue idle := by
    rw [balanced.totalValue, balanced.closedPnl, balanced.settlement.sum_eq_of_idle idle]

def AllEnded (system : System paper Unit) : Prop :=
  ∀ caller < system.calls.length, (system.calls[caller]?.bind Program.result?).isSome

/-- In every run in which every close finds its row still OPEN and is told what became of it, and
every credit takes effect, the book is conserved; and no close is under way once every call has
ended. -/
theorem conserves_of_settlesAlone (config : PaperConfig) (trades : List PaperTrade)
    (portfolio : Option Portfolio) (requests : List Request) (turns : List (Turn paper))
    (alone : ∀ step ∈ (paperSystem config trades portfolio requests).steps turns,
      SettlesAlone step) :
    let reached := (paperSystem config trades portfolio requests).run turns
    Conserves ⟨trades, portfolio, [], none⟩ reached.moment ∧
      (AllEnded reached → ∀ caller, owedBy reached.moment caller = none) := by
  intro reached
  set system := paperSystem config trades portfolio requests with systemIs
  set start : Desk := ⟨trades, portfolio, [], none⟩
  have keeps : settling.Keeps
      (fun step => step.caller < system.calls.length ∧ SettlesAlone step)
      fun moment => Balanced start (settling.phase moment) moment ∧
        ∀ caller, system.calls.length ≤ caller → settling.phase moment caller = .idle := by
    intro step permitted allowed holds
    refine ⟨balanced_keeps start step permitted allowed.2 holds.1, fun caller beyond => ?_⟩
    rw [phase_after_other step (allowed.1.trans_le beyond).ne']
    exact holds.2 caller beyond
  obtain ⟨holds, -⟩ := sound keeps ⟨balanced_start start rfl rfl, fun _ _ => rfl⟩
    (System.each_call fun _ request => follows_call config request) turns fun step member => ⟨System.caller_lt_of_mem_steps member, alone step member⟩
  refine ⟨conserves_of_balanced holds.invariant.1, fun ended caller => ?_⟩
  by_cases inside : caller < reached.calls.length
  · obtain ⟨result, isResult⟩ := Option.isSome_iff_exists.mp (ended caller inside)
    have settled := holds.ended isResult
    cases result <;> exact settled
  · rw [System.length_run] at inside
    unfold owedBy
    rw [holds.invariant.2 caller (not_lt.mp inside)]
    rfl

section Example

instance (step : Step paper) : Decidable (SettlesAlone step) := by
  obtain ⟨before, caller, op, fate⟩ := step
  cases op <;> unfold SettlesAlone <;> infer_instance

/-- A market on which the coin costs 110 and the signal says to sell. -/
private def selling : (op : Op) → Fate op :=
  answering (some ⟨.sell, 1, none⟩) (some ⟨110, 110, by norm_num, by norm_num⟩) 0

private def openedAt100 : PaperTrade := ⟨"SOL/USDT", 100, none, none, some 50, .opened⟩

private def startSol : Request := .start ⟨"SOL/USDT", none, []⟩

/-- The bot is started and finds no price for its probe; its first tick reads the OPEN position. -/
private def untilRead : List (Turn paper) :=
  List.replicate 6 ⟨0, answering none none 0⟩ ++ List.replicate 10 ⟨0, selling⟩

/-- A position that a tick sells before the bot is stopped is closed and credited once. -/
theorem conserves_of_settlesAlone_sale :
    let reached := (paperSystem .default [openedAt100] (some ⟨100, 0⟩) [startSol, .stop]).run
      (untilRead ++ List.replicate 6 ⟨0, selling⟩ ++ List.replicate 9 ⟨1, selling⟩)
    Conserves ⟨[openedAt100], some ⟨100, 0⟩, [], none⟩ reached.moment ∧
      (AllEnded reached → ∀ caller, owedBy reached.moment caller = none) :=
  conserves_of_settlesAlone .default _ _ _ _ (by decide +kernel)

/-- A stop that has read the position before the tick writes it closes and credits it again. -/
theorem not_conserves : ¬ ∀ (config : PaperConfig) (trades : List PaperTrade)
    (portfolio : Option Portfolio) (requests : List Request) (turns : List (Turn paper)),
    Conserves ⟨trades, portfolio, [], none⟩
      ((paperSystem config trades portfolio requests).run turns).moment := by
  intro conserves
  have once := (conserves .default [openedAt100] (some ⟨100, 0⟩) [startSol, .stop]
    (untilRead ++ List.replicate 4 ⟨1, selling⟩ ++ List.replicate 2 ⟨0, selling⟩ ++
      List.replicate 2 ⟨1, selling⟩)).closedOnce
  revert once
  decide +kernel

end Example

end GdslExchange.Paper
