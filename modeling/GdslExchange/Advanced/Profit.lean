/-
This file settles when a bot books the profit of its trades, live or advanced.

The advanced bot books the difference of two mark prices, whatever the size of the position: that
is its profit if the price has not moved, or if the size is the price of one unit.
-/

import GdslExchange.Advanced.Ticks
import GdslExchange.Live.Closing
import GdslExchange.Live.Profit

namespace GdslExchange.Advanced

open Async Async.Program
open Paper (PaperConfig)

abbrev Fates := (op : Op) → Fate op

/-! ### What a call does with a position -/

/-- What happens to a position, and an amount that the portfolio is credited with. -/
inductive Movement where
  | opened (price : ℚ)
  | credited (pnl : ℚ)
  | closed

def movements : (op : Op) → Fate op → List Movement
  | .setLong _ execPx _ _, _ => [.opened execPx]
  | .updatePortfolio _ pnl, .ok _ => [.credited pnl]
  | .setFlat _ _, _ => [.closed]
  | _, _ => []

def Config.live (config : Config) : Config := { config with mode := .live }

section Calls

variable {fates : Fates} {desk : Desk} {bot : ℕ} {found : Bot}

theorem exec_await (op : Op) : (await op).exec fates desk = perform op (fates op) desk :=
  exec_perform _ _

theorem journal_await (op : Op) :
    (await op).journal movements fates desk = movements op (fates op) := journal_perform _ _

/-- The average range is read without a failure, and nothing else happens. -/
theorem positionRange_quiet (config : Config) (markPrice : ℚ) :
    ∃ range, (positionRange config markPrice).exec fates desk = (desk, .ok range) ∧
      (positionRange config markPrice).journal movements fates desk = [] := by
  unfold positionRange
  rw [exec_recover, journal_recover, exec_bind, journal_bind, exec_await, journal_await]
  cases fates (.getRecent config.symbol .oneHour 30) with
  | error failure => exact ⟨_, rfl, rfl⟩
  | ok bars => exact ⟨_, rfl, rfl⟩

theorem onBot_self (isBot : desk.bots[bot]? = some found) (change : Bot → Bot) :
    (desk.onBot bot change).bots[bot]? = some (change found) := by
  simp [Desk.onBot, isBot]

/-- What a call leaves in the journal, and what memory has of a bot after it. -/
def Leaves {Value : Type} (program : Call Value) (fates : Fates) (desk : Desk) (bot : ℕ)
    (moves : List Movement) (after : Bot) : Prop :=
  program.journal movements fates desk = moves ∧
    (program.exec fates desk).1.bots[bot]? = some after

variable {Value Next : Type} {program : Call Value} {next : Value → Call Next}
  {reached : Desk} {before moves : List Movement} {after : Bot}

theorem leaves_bind {value : Value} (returned : program.exec fates desk = (reached, .ok value))
    (left : program.journal movements fates desk = before)
    (rest : Leaves (next value) fates reached bot moves after) :
    Leaves (program >>= next) fates desk bot (before ++ moves) after := by
  refine ⟨?_, ?_⟩
  · rw [journal_bind_ok returned, left, rest.1]
  · rw [exec_bind_ok returned]
    exact rest.2

theorem leaves_bind_error {failure : String}
    (thrown : program.exec fates desk = (reached, .error failure))
    (left : program.journal movements fates desk = moves)
    (same : reached.bots[bot]? = some after) :
    Leaves (program >>= next) fates desk bot moves after := by
  refine ⟨(journal_bind_error thrown).trans left, ?_⟩
  rw [exec_bind_error thrown]
  exact same

section

variable (isBot : desk.bots[bot]? = some found)
include isBot

theorem withBot_of_some {Answer : Type} (change : Bot → Bot) (answer : Bot → Answer) :
    withBot desk bot change answer = (desk.onBot bot change, .ok (answer found)) := by
  unfold withBot
  rw [isBot]

theorem exec_readBot :
    (await (.readBot bot)).exec fates desk = (desk, .ok found) := by
  rw [exec_await]
  refine (withBot_of_some isBot id id).trans ?_
  rw [Desk.onBot, List.modify_id]
  rfl

theorem leaves_setLong (execPx atrVal : ℚ) (trade : ℕ) :
    Leaves (await (.setLong bot execPx atrVal trade)) fates desk bot [.opened execPx]
      (found.opened execPx atrVal trade) := by
  refine ⟨journal_await _, ?_⟩
  rw [exec_await, perform, withBot_of_some isBot]
  exact onBot_self isBot _

theorem leaves_findPortfolio (userId : String) :
    Leaves (await (.findPortfolio userId) >>= fun _ => pure ()) fates desk bot [] found := by
  have asked : (await (.findPortfolio userId)).exec fates desk =
      (desk, fates (.findPortfolio userId)) := exec_await _
  cases fate : fates (.findPortfolio userId) with
  | error failure =>
    rw [fate] at asked
    exact leaves_bind_error asked (journal_await _) isBot
  | ok found =>
    rw [fate] at asked
    exact leaves_bind asked (journal_await _) ⟨rfl, isBot⟩

end

theorem openPosition_leaves (paper : PaperConfig) (config : Config) (markPrice sizeUsdt : ℚ)
    (isBot : desk.bots[bot]? = some found) :
    Leaves (openPosition paper bot config.live markPrice sizeUsdt) fates desk bot [] found ∨
      ∃ range trade,
        Leaves (openPosition paper bot config.live markPrice sizeUsdt) fates desk bot
          [.opened markPrice] (found.opened markPrice range trade) := by
  obtain ⟨range, ranged, silent⟩ := @positionRange_quiet fates desk config.live markPrice
  set row := config.live.trade bot markPrice none
  have created : (await (.createTrade row)).exec fates desk =
      (fates (.createTrade row)).write desk { desk with trades := desk.trades ++ [row] }
        desk.trades.length := exec_await _
  have left : (await (.createTrade row)).journal movements fates desk = [] := journal_await _
  cases fate : fates (.createTrade row) with
  | answered =>
    rw [fate] at created
    have kept : (Delivery.answered.write desk { desk with trades := desk.trades ++ [row] }
        desk.trades.length).1.bots[bot]? = some found := isBot
    refine .inr ⟨range, desk.trades.length, leaves_bind ranged silent ?_⟩
    exact leaves_bind created left (leaves_setLong kept _ _ _)
  | refused message =>
    rw [fate] at created
    exact .inl (leaves_bind ranged silent (leaves_bind_error created left isBot))
  | lost message =>
    rw [fate] at created
    exact .inl (leaves_bind ranged silent (leaves_bind_error created left isBot))

theorem closeLive_leaves (userId : String) (markPrice : ℚ) (trade : ℕ)
    (isBot : desk.bots[bot]? = some found) :
    Leaves (closeLive bot userId markPrice found.entryPrice trade) fates desk bot [] found ∨
      Leaves (closeLive bot userId markPrice found.entryPrice trade) fates desk bot
        [.credited (markPrice - found.entryPrice), .closed]
        (found.closed (markPrice - found.entryPrice)) := by
  set pnl := markPrice - found.entryPrice
  have left : (await (.closeTrade trade markPrice pnl)).journal movements fates desk = [] :=
    journal_await _
  have same : ((await (.closeTrade trade markPrice pnl)).exec fates desk).1.bots[bot]? =
      some found := by
    rw [exec_await, perform, Delivery.update_state]
    split
    · cases desk.trades[trade]? with
      | none => exact isBot
      | some row => exact isBot
    · exact isBot
  rcases ended : (await (.closeTrade trade markPrice pnl)).exec fates desk with
    ⟨reached, failure | answer⟩
  · rw [ended] at same
    exact .inl (leaves_bind_error ended left same)
  · have same : reached.bots[bot]? = some found := by
      rw [ended] at same
      exact same
    have credited : (await (.updatePortfolio userId pnl)).exec fates reached =
      (reached, fates (.updatePortfolio userId pnl)) := exec_await _
    have booked : (await (.updatePortfolio userId pnl)).journal movements fates reached =
      movements (.updatePortfolio userId pnl) (fates (.updatePortfolio userId pnl)) :=
      journal_await _
    cases fate : fates (.updatePortfolio userId pnl) with
    | error failure =>
      rw [fate] at credited booked
      exact .inl (leaves_bind ended left (leaves_bind_error credited booked same))
    | ok stored =>
      rw [fate] at credited booked
      have flat : (await (.setFlat bot pnl)).exec fates reached =
          (reached.onBot bot (Bot.closed · pnl), .ok ()) :=
        (exec_await _).trans (withBot_of_some same _ _)
      refine .inr (leaves_bind ended left (leaves_bind credited booked ?_))
      exact leaves_bind flat (journal_await _) (leaves_findPortfolio (onBot_self same _) _)

theorem closePosition_leaves (paper : PaperConfig) (config : Config) (markPrice : ℚ)
    (isBot : desk.bots[bot]? = some found) :
    Leaves (closePosition paper bot config.live markPrice) fates desk bot [] found ∨
      found.currentTradeId.isSome = true ∧
        Leaves (closePosition paper bot config.live markPrice) fates desk bot
          [.credited (markPrice - found.entryPrice), .closed]
          (found.closed (markPrice - found.entryPrice)) := by
  have read : (await (.readBot bot)).exec fates desk = (desk, .ok found) := exec_readBot isBot
  have silent : (await (.readBot bot)).journal movements fates desk = [] := journal_await _
  cases isTrade : found.currentTradeId with
  | none =>
    refine .inl (leaves_bind read silent ?_)
    rw [isTrade]
    exact ⟨rfl, isBot⟩
  | some trade =>
    have closes {moves : List Movement} {after : Bot}
        (leaves : Leaves (closeLive bot config.userId markPrice found.entryPrice trade) fates desk
          bot moves after) :
        Leaves (closePosition paper bot config.live markPrice) fates desk bot moves after := by
      refine leaves_bind read silent ?_
      rw [isTrade]
      exact leaves
    rcases @closeLive_leaves fates desk bot found config.userId markPrice trade isBot with
      none | both
    · exact .inl (closes none)
    · exact .inr ⟨rfl, closes both⟩

end Calls

/-! ### Deals and what they are worth -/

/-- Buying a position of a size, or closing it. -/
inductive Deed where
  | buy (sizeUsdt : ℚ)
  | close

/-- A deed at a mark price, and what its operations meet. -/
structure Deal where
  deed : Deed
  mark : ℚ
  isPrice : 0 < mark
  fates : Fates

/-- A position is bought as the meta-policy decides, and only where there is none. -/
def Deal.call (paper : PaperConfig) (config : Config) (bot : ℕ) (deal : Deal) : Call Unit :=
  match deal.deed with
  | .buy sizeUsdt => do
    let state ← await (.readBot bot)
    execute paper bot config.live deal.mark ⟨.buy, sizeUsdt⟩ state.position
  | .close => closePosition paper bot config.live deal.mark

/-- The size and the entry of the position, what the portfolio has been credited with, and the
profit of the positions that have been closed. -/
structure Account where
  size : ℚ
  entry : ℚ
  booked : ℚ
  realized : ℚ

def Deed.size : Deed → ℚ
  | .buy sizeUsdt => sizeUsdt
  | .close => 0

def Account.post (deal : Deal) (account : Account) : Movement → Account
  | .opened price => { account with size := deal.deed.size, entry := price }
  | .credited pnl => { account with booked := account.booked + pnl }
  | .closed =>
    { account with
      realized := account.realized + account.size * (deal.mark / account.entry - 1) }

/-- The memory of the bots, and the account of one of them. -/
structure Course where
  desk : Desk
  account : Account

/-- The portfolio has been credited with the profit of the positions. -/
def Course.Honest (course : Course) : Prop := course.account.booked = course.account.realized

instance : DecidablePred Course.Honest := fun _ => inferInstanceAs (Decidable (_ = _))

/-- A bot whose account starts. -/
def opening (config : Config) (initialEquity : ℚ) : Course :=
  ⟨⟨[newBot config.live initialEquity], [], []⟩, ⟨0, 0, 0, 0⟩⟩

section Deals

variable (paper : PaperConfig) (config : Config) (deal : Deal) (course : Course)

def Deal.moves : List Movement :=
  (deal.call paper config 0).journal movements deal.fates course.desk

def Deal.step : Course where
  desk := ((deal.call paper config 0).exec deal.fates course.desk).1
  account := (deal.moves paper config course).foldl (Account.post deal) course.account

/-- A position is closed at the price it was opened at, or it is of the size of one unit. -/
def Deal.Faithful : Prop :=
  .closed ∈ deal.moves paper config course →
    deal.mark = course.account.entry ∨ course.account.size = course.account.entry

/-- What the bot has in memory about its position is what its account has. -/
def Course.Kept : Prop :=
  ∃ bot, course.desk.bots[0]? = some bot ∧
    (bot.currentTradeId.isSome = true →
      bot.entryPrice = course.account.entry ∧ 0 < course.account.entry)

/-- The profit of a position is the difference of its prices if the price has not moved, or if the
position is of the size of one unit, and not else. -/
theorem profit_eq_iff {size mark entry : ℚ} (isPrice : 0 < entry) :
    mark - entry = size * (mark / entry - 1) ↔ mark = entry ∨ size = entry := by
  have split : size * (mark / entry - 1) = size * (mark - entry) / entry := by
    field_simp
  rw [split, eq_div_iff isPrice.ne']
  constructor
  · intro equal
    by_cases moved : mark = entry
    · exact .inl moved
    · exact .inr (mul_left_cancel₀ (sub_ne_zero.mpr moved) (by linarith))
  · rintro (same | unit)
    · rw [same]
      ring
    · rw [unit]
      ring

variable {paper config deal course}

theorem step_of_leaves {moves : List Movement} {after : Bot}
    (leaves : Leaves (deal.call paper config 0) deal.fates course.desk 0 moves after) :
    deal.moves paper config course = moves ∧
      (deal.step paper config course).account = moves.foldl (Account.post deal) course.account ∧
      (deal.step paper config course).desk.bots[0]? = some after := by
  have same : deal.moves paper config course = moves := leaves.1
  refine ⟨same, ?_, leaves.2⟩
  rw [← same]
  rfl

theorem call_leaves {bot : Bot} (isBot : course.desk.bots[0]? = some bot) :
    Leaves (deal.call paper config 0) deal.fates course.desk 0 [] bot ∨
      (∃ range trade, Leaves (deal.call paper config 0) deal.fates course.desk 0
        [.opened deal.mark] (bot.opened deal.mark range trade)) ∨
      bot.currentTradeId.isSome = true ∧
        Leaves (deal.call paper config 0) deal.fates course.desk 0
          [.credited (deal.mark - bot.entryPrice), .closed]
          (bot.closed (deal.mark - bot.entryPrice)) := by
  unfold Deal.call
  cases deal.deed with
  | buy sizeUsdt =>
    have read : (await (.readBot 0)).exec deal.fates course.desk = (course.desk, .ok bot) :=
      exec_readBot isBot
    have buys {moves : List Movement} {after : Bot}
        (leaves : Leaves (execute paper 0 config.live deal.mark ⟨.buy, sizeUsdt⟩ bot.position)
          deal.fates course.desk 0 moves after) := by
      have silent : (await (.readBot 0)).journal movements deal.fates course.desk = [] :=
        journal_await _
      have bought := @leaves_bind _ _ _ _ _ _ (fun state => execute paper 0 config.live deal.mark
        ⟨.buy, sizeUsdt⟩ state.position) _ _ _ _ _ read silent leaves
      exact bought
    by_cases isNone : bot.position = .none
    · have isOpen : execute paper 0 config.live deal.mark ⟨.buy, sizeUsdt⟩ bot.position =
          openPosition paper 0 config.live deal.mark sizeUsdt := if_pos ⟨rfl, isNone⟩
      rcases @openPosition_leaves deal.fates course.desk 0 bot paper config deal.mark sizeUsdt
        isBot with none | ⟨range, trade, opened⟩
      · exact .inl (buys (isOpen ▸ none))
      · exact .inr (.inl ⟨range, trade, buys (isOpen ▸ opened)⟩)
    · have isIdle : execute paper 0 config.live deal.mark ⟨.buy, sizeUsdt⟩ bot.position =
          pure () := by
        unfold execute
        rw [if_neg fun both => isNone both.2, if_neg fun both => by cases both.1]
      exact .inl (buys (isIdle ▸ ⟨rfl, isBot⟩))
  | close =>
    rcases closePosition_leaves paper config deal.mark isBot with none | ⟨isOpen, closed⟩
    · exact .inl none
    · exact .inr (.inr ⟨isOpen, closed⟩)

theorem kept_step (kept : course.Kept) : (deal.step paper config course).Kept := by
  obtain ⟨bot, isBot, inMemory⟩ := kept
  rcases @call_leaves paper config deal course bot isBot with
    none | ⟨range, trade, opened⟩ | ⟨-, closed⟩
  · obtain ⟨-, posted, later⟩ := step_of_leaves none
    exact ⟨bot, later, posted ▸ inMemory⟩
  · obtain ⟨-, posted, later⟩ := step_of_leaves opened
    exact ⟨_, later, posted ▸ fun _ => ⟨rfl, deal.isPrice⟩⟩
  · obtain ⟨-, -, later⟩ := step_of_leaves closed
    exact ⟨_, later, fun isOpen => by cases isOpen⟩

theorem honest_step (kept : course.Kept) (honest : course.Honest) :
    (deal.step paper config course).Honest ↔ deal.Faithful paper config course := by
  obtain ⟨bot, isBot, inMemory⟩ := kept
  unfold Course.Honest Deal.Faithful
  rcases @call_leaves paper config deal course bot isBot with
    none | ⟨range, trade, opened⟩ | ⟨isOpen, closed⟩
  · obtain ⟨moves, posted, -⟩ := step_of_leaves none
    rw [posted, moves]
    exact iff_of_true honest fun member => by cases member
  · obtain ⟨moves, posted, -⟩ := step_of_leaves opened
    rw [posted, moves]
    exact iff_of_true honest fun member => by simp at member
  · obtain ⟨moves, posted, -⟩ := step_of_leaves closed
    obtain ⟨isEntry, isPrice⟩ := inMemory isOpen
    have balanced : course.account.booked = course.account.realized := honest
    rw [posted, moves, ← profit_eq_iff isPrice, isEntry]
    simp [Account.post, balanced]

end Deals

/-- Both bots: the portfolio is credited with what the trades bring throughout a run if and only
if each sale of the live bot brings its cost and the move of the tick price, and each position of
the advanced bot is closed at its entry price or is of the size of one unit. -/
theorem booksProfit_iff (bot : ℕ) (desk : Live.Desk) (trades : List Live.Trade)
    (paper : PaperConfig) (config : Config) (initialEquity : ℚ) (deals : List Deal) :
    (Always (fun trade => trade.step bot) Live.Course.Honest trades (Live.opening desk) ↔
        Along (fun trade => trade.step bot) (fun trade => trade.Faithful bot) trades
          (Live.opening desk)) ∧
      (Always (Deal.step paper config) Course.Honest deals (opening config initialEquity) ↔
        Along (Deal.step paper config) (Deal.Faithful paper config) deals
          (opening config initialEquity)) := by
  refine ⟨Live.honest_iff bot desk trades, ?_⟩
  have start : (opening config initialEquity).Kept :=
    ⟨_, rfl, fun isOpen => by cases isOpen⟩
  exact always_iff_along (fun _ _ kept => kept_step kept)
    (fun _ _ kept honest => honest_step kept honest) start rfl

/-! ### One coin -/

def startedWith (orderSizeUsdt : ℚ) : Live.Desk :=
  (Live.perform (.installBot ⟨"BTC/USDT", "BTCUSDT", orderSizeUsdt⟩ 0) () ⟨[], none, false, []⟩).1

/-- A coin is bought for 101 at a tick of 100 and sold for 109 at a tick of 110; a position of
1000 is bought at a mark price of 100 and closed at 110. -/
theorem not_booksProfit :
    (¬ ∀ (bot : ℕ) (desk : Live.Desk) (trades : List Live.Trade),
      Always (fun trade => trade.step bot) Live.Course.Honest trades (Live.opening desk)) ∧
    ¬ ∀ (paper : PaperConfig) (config : Config) (initialEquity : ℚ) (deals : List Deal),
      Always (Deal.step paper config) Course.Honest deals (opening config initialEquity) := by
  refine ⟨fun claimed => ?_, fun claimed => ?_⟩
  · have honest := claimed 0 (startedWith 101)
      [⟨.buy, 100, Live.oneCoin, 101⟩, ⟨.sell, 110, Live.oneCoin, 109⟩]
    exact absurd honest (by decide +kernel)
  · have honest := claimed .default bitcoinBot 1000
      [⟨.buy 1000, 100, by norm_num, silent⟩, ⟨.close, 110, by norm_num, silent⟩]
    exact absurd honest (by decide +kernel)

end GdslExchange.Advanced
