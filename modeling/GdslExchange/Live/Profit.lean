/-
This file settles when the live bot books the profit that its fills made: when its exits and its
entries are filled off their tick prices by the same amount.

The profit of a trade is booked from the two tick prices. What an order was filled for in quote
is reported by the exchange and never looked at.
-/

import GdslExchange.Async.Journal
import GdslExchange.Live.Position

namespace GdslExchange.Live

open Async Async.Program

abbrev Fates := (op : Op) → Fate op

/-! ### What a call does with money -/

/-- A fill, or an amount that the portfolio is credited with. -/
inductive Movement where
  | bought (qty : ℚ)
  | sold (qty : ℚ)
  | credited (pnl : ℚ)

def movements : (op : Op) → Fate op → List Movement
  | .placeOrder _ ⟨.buy, _⟩, .filled qty _ => [.bought qty]
  | .placeOrder _ ⟨.sell, quantity⟩, .filled qty _ => [.sold (min qty quantity)]
  | .updatePortfolio pnl, .ok _ => [.credited pnl]
  | _, _ => []

/-- Operations that move no money. -/
def Moneyless : Op → Prop
  | .placeOrder _ _ => False
  | .updatePortfolio _ => False
  | _ => True

theorem movements_moneyless {op : Op} (moneyless : Moneyless op) (fate : Fate op) :
    movements op fate = [] := by
  cases op <;> first | exact moneyless.elim | rfl

section Closing

variable {fates : Fates} {desk : Desk} {Value : Type}

theorem journal_moneyless {program : Call Value} (only : program.Only Moneyless) :
    program.journal movements fates desk = [] :=
  journal_eq_nil only (fun op moneyless => movements_moneyless moneyless (fates op)) desk

/-- After a log line comes what follows, or nothing. -/
theorem journal_log_then {kind : LogKind} {message : String} {next : Unit → Call Value} :
    (log kind message >>= next).journal movements fates desk = [] ∨
      (log kind message >>= next).journal movements fates desk =
        (next ()).journal movements fates desk := by
  have logged : (log kind message).exec fates desk =
      (desk, fates (.appendTradingLog kind message)) :=
    exec_perform _ _
  have silent : (log kind message).journal movements fates desk = [] :=
    journal_perform _ _
  rw [journal_bind, logged, silent]
  cases fates (.appendTradingLog kind message) with
  | error failure => exact .inl rfl
  | ok answer => exact .inr rfl

theorem journal_readBot_then {bot : ℕ} {found : LiveBot} {next : BotReading → Call Value}
    (isBot : desk.bots[bot]? = some found) :
    (await (.readBot bot) >>= next).journal movements fates desk =
      (next ⟨found, fates (.readBot bot)⟩).journal movements fates desk := by
  have read : (await (.readBot bot)).exec fates desk = (desk, .ok ⟨found, fates (.readBot bot)⟩) :=
    (exec_perform _ _).trans (withBot_of_some isBot _ _)
  rw [journal_bind_ok read]
  exact congrArg (· ++ _) (journal_perform _ _)

variable (fates desk) in
/-- A SELL moves nothing, or base, in which case it answers with that. -/
theorem tryOrder_sold (bot : ℕ) (quantity : ℚ) :
    (tryOrder bot ⟨.sell, quantity⟩).journal movements fates desk = [] ∧
        (∀ reached qty, (tryOrder bot ⟨.sell, quantity⟩).exec fates desk ≠
          (reached, .ok (some qty))) ∨
      ∃ qty, (tryOrder bot ⟨.sell, quantity⟩).journal movements fates desk = [.sold qty] ∧
        (tryOrder bot ⟨.sell, quantity⟩).exec fates desk =
          ({ desk with fills := desk.fills ++ [⟨bot, .sell, qty⟩] }, .ok (some qty)) := by
  have placed : (await (.placeOrder bot ⟨.sell, quantity⟩)).exec fates desk =
      sendOrder bot ⟨.sell, quantity⟩ desk (fates (.placeOrder bot ⟨.sell, quantity⟩)) :=
    exec_perform _ _
  have left : (await (.placeOrder bot ⟨.sell, quantity⟩)).journal movements fates desk =
      movements (.placeOrder bot ⟨.sell, quantity⟩) (fates (.placeOrder bot ⟨.sell, quantity⟩)) :=
    journal_perform _ _
  unfold tryOrder
  rw [journal_recover, exec_recover, journal_bind, exec_bind, placed, left]
  cases fates (.placeOrder bot ⟨.sell, quantity⟩) with
  | rejected message =>
    refine .inl ⟨journal_moneyless (only_then trivial fun _ => trivial), ?_⟩
    have returns : ((log .executionFailed message >>= fun _ => pure none) :
        Call (Option ℚ)).Returns fun filled => filled = none :=
      returns_bind fun _ => rfl
    intro reached qty returned
    cases returns.exec returned
  | filled qty nonneg => exact .inr ⟨min qty quantity, rfl, rfl⟩

theorem bookFlat_credits {bot : ℕ} {found : LiveBot} (isBot : desk.bots[bot]? = some found)
    (settings : BotSettings) (price soldQty : ℚ) :
    (bookFlat bot settings price soldQty).journal movements fates desk = [] ∨
      (bookFlat bot settings price soldQty).journal movements fates desk =
        [.credited ((price - found.entryPrice.getD 0) * soldQty)] := by
  rcases @journal_log_then fates desk Unit .executionSuccess _ _ with silent | logged
  · exact .inl silent
  · refine Or.imp logged.trans logged.trans ?_
    rw [journal_readBot_then isBot]
    set pnl := (price - found.entryPrice.getD 0) * soldQty
    have credited : (await (.updatePortfolio pnl)).exec fates desk =
        (desk, fates (.updatePortfolio pnl)) := exec_perform _ _
    have left : (await (.updatePortfolio pnl)).journal movements fates desk =
        movements (.updatePortfolio pnl) (fates (.updatePortfolio pnl)) := journal_perform _ _
    rw [journal_bind, credited, left]
    cases fates (.updatePortfolio pnl) with
    | error failure => exact .inl rfl
    | ok answer =>
      have rest : ((await .findPortfolio >>= fun _ => do
          log .exec ("[live] SELL " ++ settings.pair ++ " (" ++ settings.symbol ++ ") filled")
          await (.setFlat bot)) : Call Unit).journal movements fates desk = [] := by
        refine journal_moneyless (only_then trivial fun _ => ?_)
        exact only_then trivial fun _ => only_perform trivial
      exact .inr (congrArg ([Movement.credited pnl] ++ ·) rest)

/-- The entry price of a bot; a missing one counts as zero. -/
def Desk.entryPrice (desk : Desk) (bot : ℕ) : ℚ :=
  (desk.bots[bot]?.bind LiveBot.entryPrice).getD 0

/-- A close moves nothing, or sells some base, and then it may credit the portfolio with the move
of the tick price. -/
theorem closePosition_moves (bot : ℕ) (price : ℚ) :
    (closePosition bot price).journal movements fates desk = [] ∨
      ∃ qty, (closePosition bot price).journal movements fates desk = [.sold qty] ∨
        (closePosition bot price).journal movements fates desk =
          [.sold qty, .credited ((price - desk.entryPrice bot) * qty)] := by
  cases isBot : desk.bots[bot]? with
  | none =>
    have read : (await (.readBot bot)).exec fates desk = (desk, .error "no such bot") :=
      (exec_perform _ _).trans (withBot_of_none isBot _ _)
    exact .inl ((journal_bind_error read).trans (journal_perform _ _))
  | some found =>
    have isEntry : desk.entryPrice bot = found.entryPrice.getD 0 := by
      unfold Desk.entryPrice
      rw [isBot]
      rfl
    unfold closePosition
    rw [journal_readBot_then isBot, isEntry]
    split
    · exact .inl rfl
    · unfold placeFlat
      rcases @journal_log_then fates desk Unit .attempt _ _ with silent | logged
      · exact .inl silent
      · rw [logged, journal_readBot_then isBot]
        rcases tryOrder_sold fates desk bot (formatBaseQty found.baseQtyHeld) with
          ⟨unsold, never⟩ | ⟨qty, sold, answered⟩
        · refine .inl ?_
          rcases returned : (tryOrder bot ⟨.sell, formatBaseQty found.baseQtyHeld⟩).exec fates desk
            with ⟨reached, failure | filled⟩
          · exact (journal_bind_error returned).trans unsold
          · cases filled with
            | none => exact (journal_bind_ok returned).trans (congrArg (· ++ []) unsold)
            | some qty => exact absurd returned (never reached qty)
        · refine .inr ⟨qty, ?_⟩
          rw [journal_bind_ok answered, sold]
          have same : ({ desk with fills := desk.fills ++ [⟨bot, .sell, qty⟩] } : Desk).bots[bot]? =
              some found := isBot
          rcases @bookFlat_credits fates _ bot found same found.settings price qty with
            silent | credited
          · exact .inl (congrArg ([Movement.sold qty] ++ ·) silent)
          · exact .inr (congrArg ([Movement.sold qty] ++ ·) credited)

end Closing

theorem bought_of_mem_journal {fates : Fates} {desk : Desk} {Value : Type} {program : Call Value}
    (only : program.Only Buying) {movement : Movement}
    (member : movement ∈ program.journal movements fates desk) : ∃ qty, movement = .bought qty := by
  obtain ⟨op, buying, left⟩ := exists_of_mem_journal only member
  cases op with
  | placeOrder bot order =>
    obtain ⟨side, quantity⟩ := order
    cases (show side = .buy from buying)
    generalize fates (.placeOrder bot ⟨.buy, quantity⟩) = fate at left
    cases fate with
    | rejected message => cases left
    | filled qty nonneg => exact ⟨qty, List.mem_singleton.mp left⟩
  | updatePortfolio pnl => exact buying.elim
  | _ => cases left

/-! ### Trades and what they are worth -/

/-- An entry or an exit of a bot: the price of the tick that makes it, what its operations meet,
and the quote that the exchange moves for what it fills. -/
structure Trade where
  side : Side
  price : ℚ
  fates : Fates
  quote : ℚ

/-- A bot that has a position does not enter another. -/
def enter (bot : ℕ) (price : ℚ) : Call Unit := do
  let reading ← await (.readBot bot)
  if reading.bot.position = .none then openLong bot price else pure ()

def Trade.call (trade : Trade) (bot : ℕ) : Call Unit :=
  match trade.side with
  | .buy => enter bot trade.price
  | .sell => closePosition bot trade.price

/-- What a unit of the base has cost that was bought last, what the portfolio has been credited
with, and what the sales have brought beyond the cost of what they sold. -/
structure Account where
  unitCost : ℚ
  booked : ℚ
  realized : ℚ

def Account.post (quote : ℚ) (account : Account) : Movement → Account
  | .bought qty => if qty > 0 then { account with unitCost := quote / qty } else account
  | .sold qty => { account with realized := account.realized + (quote - account.unitCost * qty) }
  | .credited pnl => { account with booked := account.booked + pnl }

/-- The memory of the bots, and the account of one of them. -/
structure Course where
  desk : Desk
  account : Account

namespace Trade

variable (bot : ℕ) (trade : Trade) (course : Course)

def moves : List Movement := (trade.call bot).journal movements trade.fates course.desk

def step : Course where
  desk := ((trade.call bot).exec trade.fates course.desk).1
  account := (trade.moves bot course).foldl (Account.post trade.quote) course.account

/-- What a sale is credited with beyond its cost, for each unit: the move of the tick price, or
nothing where the credit is not stored. -/
def margin : ℚ :=
  if (trade.moves bot course).any (fun movement => movement matches .credited _) then
    trade.price - course.desk.entryPrice bot
  else 0

/-- Each sale brings its cost and its margin. -/
def Faithful : Prop :=
  ∀ qty, .sold qty ∈ trade.moves bot course →
    trade.quote = (course.account.unitCost + trade.margin bot course) * qty

end Trade

/-- The portfolio has been credited with what the sales have brought. -/
def Course.Honest (course : Course) : Prop := course.account.booked = course.account.realized

instance : DecidablePred Course.Honest := fun _ => inferInstanceAs (Decidable (_ = _))

/-- A bot whose account starts. -/
def opening (desk : Desk) : Course := ⟨desk, ⟨0, 0, 0⟩⟩

/-! ### What one trade does -/

section Step

variable {bot : ℕ} {trade : Trade} {course : Course}

theorem post_bought {quote : ℚ} {moves : List Movement}
    (bought : ∀ movement ∈ moves, ∃ qty, movement = .bought qty) (account : Account) :
    (moves.foldl (Account.post quote) account).booked = account.booked ∧
      (moves.foldl (Account.post quote) account).realized = account.realized := by
  induction moves generalizing account with
  | nil => exact ⟨rfl, rfl⟩
  | cons movement rest inductionHypothesis =>
    obtain ⟨qty, isBought⟩ := bought movement List.mem_cons_self
    have later := inductionHypothesis (fun other member => bought other (.tail _ member))
      (account.post quote movement)
    have kept : (account.post quote movement).booked = account.booked ∧
        (account.post quote movement).realized = account.realized := by
      rw [isBought]
      unfold Account.post
      dsimp only
      split <;> exact ⟨rfl, rfl⟩
    exact ⟨later.1.trans kept.1, later.2.trans kept.2⟩

theorem enter_buys (bot : ℕ) (price : ℚ) : (enter bot price).Only Buying := by
  refine only_then trivial fun reading => ?_
  split
  · exact openLong_buys bot price
  · trivial

theorem honest_buy (isBuy : trade.side = .buy) (honest : course.Honest) :
    (trade.step bot course).Honest ↔ trade.Faithful bot course := by
  have bought : ∀ movement ∈ trade.moves bot course, ∃ qty, movement = .bought qty := by
    unfold Trade.moves Trade.call
    rw [isBuy]
    exact fun movement member => bought_of_mem_journal (enter_buys bot trade.price) member
  have kept := @post_bought trade.quote _ bought course.account
  refine iff_of_true ?_ fun qty member => ?_
  · exact kept.1.trans (honest.trans kept.2.symm)
  · obtain ⟨other, differs⟩ := bought _ member
    cases differs

theorem honest_sell (isSell : trade.side = .sell) (honest : course.Honest) :
    (trade.step bot course).Honest ↔ trade.Faithful bot course := by
  have same : trade.moves bot course =
      (closePosition bot trade.price).journal movements trade.fates course.desk := by
    unfold Trade.moves Trade.call
    rw [isSell]
  have balanced : course.account.booked = course.account.realized := honest
  unfold Course.Honest Trade.Faithful Trade.margin Trade.step
  rcases @closePosition_moves trade.fates course.desk bot trade.price with
    none | ⟨sold, uncredited | credited⟩
  · rw [same, none]
    exact iff_of_true honest fun qty member => by cases member
  · rw [same, uncredited]
    simp only [List.foldl_cons, Account.post, balanced, List.foldl_nil, left_eq_add, List.mem_cons,
      Movement.sold.injEq, List.not_mem_nil, or_false, List.any_cons, List.any_nil, Bool.or_self,
      Bool.false_eq_true, ↓reduceIte, add_zero, forall_eq]
    constructor
    · intro equal
      linarith
    · intro equal
      linarith
  · rw [same, credited]
    simp only [List.foldl_cons, Account.post, balanced, List.foldl_nil, add_right_inj,
      List.mem_cons, Movement.sold.injEq, reduceCtorEq, List.not_mem_nil, or_self, or_false,
      List.any_cons, List.any_nil, Bool.or_false, Bool.or_true, ↓reduceIte, forall_eq]
    constructor
    · intro equal
      linarith
    · intro equal
      linarith

theorem honest_step (honest : course.Honest) :
    (trade.step bot course).Honest ↔ trade.Faithful bot course := by
  cases isSide : trade.side with
  | buy => exact honest_buy isSide honest
  | sell => exact honest_sell isSide honest

end Step

/-- The portfolio is credited with what the fills bring throughout a run if and only if each sale
brings its cost and the move of the tick price. -/
theorem honest_iff (bot : ℕ) (desk : Desk) (trades : List Trade) :
    Always (fun trade => trade.step bot) Course.Honest trades (opening desk) ↔
      Along (fun trade => trade.step bot) (fun trade => trade.Faithful bot) trades
        (opening desk) :=
  @always_iff_along _ _ _ (fun _ => True) _ _ (fun _ _ _ => trivial)
    (fun _ _ _ honest => honest_step honest) _ _ trivial rfl

end GdslExchange.Live
