/-
This file settles when the live bot can close what it has opened: when the free balance of the
base covers the lot that its order is rounded to.

The bot notes what its BUY was filled with, before the commission, and sells that quantity,
rounded to lot steps or raised to the smallest lot.
-/

import GdslExchange.Live.Position
import GdslExchange.Live.Walk
import GdslExchange.Orders.MarketSize

namespace GdslExchange.Live

open Async Async.Program
open Orders (SymbolRules marketQuantity)
open Protocol (anywhere ends)

/-! ### What a run should keep -/

/-- What a fill leaves of the base, with a commission on what is bought. -/
def Fill.credited (fee : ℚ) (fill : Fill) : ℚ :=
  match fill.side with
  | .buy => fill.qty * (1 - fee)
  | .sell => -fill.qty

namespace Desk

variable (desk : Desk)

def symbolOf (bot : ℕ) : Option String := desk.bots[bot]?.map fun found => found.settings.symbol

/-- The free balance of the base of a symbol, of an account that was flat. -/
def freeBase (fee : ℚ) (symbol : String) : ℚ :=
  ((desk.fills.filter fun fill => desk.symbolOf fill.bot = some symbol).map
    (Fill.credited fee)).sum

end Desk

variable (rules : String → Option SymbolRules) (fee : ℚ)

/-- A SELL, as it is sent, is at most the free balance. -/
def Closable (step : Step venue) : Prop :=
  match step.op with
  | .placeOrder bot ⟨.sell, quantity⟩ => ∀ symbol ∈ step.before.state.symbolOf bot,
      ∀ sent ∈ (marketQuantity (rules symbol) quantity).toOption,
        sent ≤ step.before.state.freeBase fee symbol
  | _ => True

instance (step : Step venue) : Decidable (Closable rules fee step) := by
  unfold Closable
  split <;> infer_instance

/-! ### What a call sells -/

/-- What a caller has last read that a bot holds. -/
structure Reading where
  bot : ℕ
  held : ℚ

/-- A SELL is of what its caller has read that the bot holds. -/
def closing : Protocol venue (Option Reading) where
  start := none
  permits phase
    | .placeOrder bot ⟨.sell, quantity⟩ =>
      ∃ held, phase = some ⟨bot, held⟩ ∧ quantity = formatBaseQty held
    | _ => True
  next phase
    | .readBot bot, .ok reading => some ⟨bot, reading.bot.baseQtyHeld⟩
    | _, _ => phase

/-- The free balance covers the SELL of what the bot was read to hold: every lot that this quantity
is rounded to, or the quantity itself where the rules of the symbol are not known. -/
def Covers (step : Step venue) : Prop :=
  match step.op with
  | .placeOrder bot ⟨.sell, _⟩ => ∀ reading ∈ closing.phase step.before step.caller,
      ∀ symbol ∈ step.before.state.symbolOf bot,
        let free := step.before.state.freeBase fee symbol
        match rules symbol with
        | none => formatBaseQty reading.held ≤ free
        | some known => known.Fits (formatBaseQty reading.held) free
  | _ => True

/-- Orders that sell are alone in not being permitted always. -/
def Unsold : Op → Prop
  | .placeOrder _ order => order.side = .buy
  | _ => True

variable {Value : Type}

theorem anywhere_unsold {program : Call Value} (only : program.Only Unsold) :
    closing.Anywhere program := by
  refine Protocol.Anywhere.only (only.mono fun op unsold phase => ?_)
  cases op with
  | placeOrder bot order =>
    obtain ⟨side, quantity⟩ := order
    rw [show side = .buy from unsold]
    trivial
  | _ => trivial

variable {op : Op}

theorem await_then {next : Result op → Call Value} (unsold : Unsold op)
    (tail : ∀ result, closing.Anywhere (next result)) : closing.Anywhere (await op >>= next) :=
  (anywhere_unsold (only_perform unsold)).bind tail

theorem log_then {kind : LogKind} {message : String} {next : Unit → Call Value}
    (tail : ∀ result, closing.Anywhere (next result)) :
    closing.Anywhere (log kind message >>= next) := await_then trivial tail

theorem anywhere_done (value : Value) :
    closing.Anywhere (pure value : Call Value) := fun _ => trivial

section Calls

variable (bot : ℕ) (settings : BotSettings)

theorem only_log (kind : LogKind) (message : String) : (log kind message).Only Unsold :=
  only_perform trivial

theorem only_openLong (price : ℚ) : (openLong bot price).Only Unsold :=
  (openLong_buys bot price).mono fun op buying => by cases op <;> first | exact buying | trivial

/-- The order of a close is of what has just been read. -/
theorem placeFlat_anywhere (price qty : ℚ) :
    closing.Anywhere (placeFlat bot settings price qty) := by
  refine log_then fun _ phase => ?_
  have read : closing.Follows phase (await (.readBot bot))
      (ends (fun reading reached => reached = some ⟨bot, reading.bot.baseQtyHeld⟩)
        fun _ => True) :=
    Protocol.Follows.perform trivial (fun _ => rfl) fun _ => trivial
  refine Protocol.Follows.bind read fun reading reached same => ?_
  rw [same]
  have placed : closing.Follows (some ⟨bot, reading.bot.baseQtyHeld⟩)
      (tryOrder bot ⟨.sell, formatBaseQty reading.bot.baseQtyHeld⟩) anywhere := by
    have sent : closing.Follows (some ⟨bot, reading.bot.baseQtyHeld⟩)
        (await (.placeOrder bot ⟨.sell, formatBaseQty reading.bot.baseQtyHeld⟩)) anywhere :=
      Protocol.Follows.perform ⟨_, rfl, rfl⟩ (fun _ => trivial) fun _ => trivial
    refine Protocol.Follows.recover (Protocol.Follows.bind sent fun _ _ _ => trivial)
      fun message later _ => ?_
    exact log_then (fun _ => anywhere_done none) later
  refine Protocol.Follows.bind placed fun filled later _ => ?_
  cases filled with
  | none => trivial
  | some soldQty =>
    refine anywhere_unsold (only_bind (only_log _ _) fun _ => ?_) later
    refine only_then trivial fun _ => ?_
    refine only_then trivial fun _ => ?_
    refine only_then trivial fun _ => ?_
    exact only_bind (only_log _ _) fun _ => only_perform trivial

theorem closePosition_anywhere (price : ℚ) : closing.Anywhere (closePosition bot price) := by
  refine await_then trivial fun reading => ?_
  split
  · exact anywhere_done ()
  · exact placeFlat_anywhere bot _ price _

theorem openLong_anywhere (price : ℚ) : closing.Anywhere (openLong bot price) :=
  anywhere_unsold (only_openLong bot price)

/-! ### Ticks -/

theorem andFinally_anywhere {Value : Type} {body : Call Value} {cleanup : Call Unit}
    (tried : closing.Anywhere body) (cleaned : closing.Anywhere cleanup) :
    closing.Anywhere (andFinally body cleanup) := by
  have thrown (failure : String) :
      closing.Anywhere (cleanup >>= fun _ => (.failed failure : Call Value)) :=
    cleaned.bind fun _ _ => trivial
  exact (tried.recover thrown).bind fun value => cleaned.bind fun _ => anywhere_done value

theorem only_advise (symbol : String) (sizeUsdt accountEquityUsdt : ℚ) :
    (advise symbol sizeUsdt accountEquityUsdt).Only Unsold :=
  only_recover (only_then trivial fun _ => trivial) fun _ => trivial

theorem forceFirst_anywhere (price : ℚ) : closing.Anywhere (forceFirst bot price) := by
  have forced (size : ℚ) : closing.Anywhere (forceOpen bot price size) := by
    refine await_then trivial fun saved => log_then fun _ => ?_
    refine andFinally_anywhere ?_ (anywhere_unsold (only_perform trivial))
    exact ((openLong_anywhere bot price).bind fun _ => anywhere_done true).recover fun _ =>
      log_then fun _ => anywhere_done false
  have balance : usdtBalance.Only Unsold := only_recover (only_perform trivial) fun _ => trivial
  refine (anywhere_unsold balance).bind fun found => ?_
  cases found with
  | none => exact anywhere_done false
  | some realBal =>
    dsimp only
    split
    · refine await_then trivial fun reading => ?_
      split
      · refine (anywhere_unsold (only_advise _ _ _)).bind fun advisory => ?_
        split
        · exact log_then fun _ => anywhere_done true
        · exact forced _
      · exact log_then fun _ => anywhere_done false
    · exact anywhere_done false

theorem only_passAdvisor (reading : BotReading) (capitalUsd : ℚ) :
    (passAdvisor bot reading capitalUsd).Only Unsold := by
  refine only_bind (only_advise _ _ _) fun advisory => ?_
  cases advisory with
  | none => trivial
  | some advisory =>
    dsimp only
    split
    · exact only_bind (only_log _ _) fun _ => trivial
    · split
      · refine only_bind (only_then trivial fun reading => ?_) fun _ => trivial
        split
        · exact only_bind (only_log _ _) fun _ => only_perform trivial
        · trivial
      · trivial

theorem carryOut_anywhere (price capitalUsd : ℚ) (signal : Paper.AISignalResult)
    (reading : BotReading) (intent : Paper.Intent) :
    closing.Anywhere (carryOut bot price capitalUsd signal reading intent) := by
  have executed : closing.Anywhere (execute bot price intent) := by
    cases intent with
    | buy => exact openLong_anywhere bot price
    | sell => exact closePosition_anywhere bot price
  unfold carryOut
  split
  · refine (anywhere_unsold (only_passAdvisor bot reading capitalUsd)).bind fun passed => ?_
    split
    · exact executed
    · exact anywhere_done ()
  · exact executed

end Calls

/-- Every call sells what it has read, wherever its caller stands. -/
theorem closing_walks : Walks closing fun _ => True where
  start := trivial
  common := by
    intro op isCommon phase _
    refine ⟨?_, fun _ => trivial⟩
    cases op with
    | placeOrder bot order => exact isCommon.elim
    | _ => trivial
  settles := fun _ _ => trivial
  opens := fun bot price phase _ => openLong_anywhere bot price phase
  closes := fun bot price phase _ => closePosition_anywhere bot price phase
  forces := fun bot price phase _ => forceFirst_anywhere bot price phase
  carries := fun bot price capitalUsd signal reading intent phase _ =>
    carryOut_anywhere bot price capitalUsd signal reading intent phase

/-! ### What is sold has been bought -/

/-- The bot was filled with that quantity by a BUY, or holds nothing. -/
def Desk.Bought (desk : Desk) (bot : ℕ) (held : ℚ) : Prop := held = 0 ∨ ⟨bot, .buy, held⟩ ∈ desk.fills

def Desk.helds (desk : Desk) : List ℚ := desk.bots.map LiveBot.baseQtyHeld

/-- What the bots hold, what callers have read that they hold and what callers are about to enter
has been bought. -/
structure Bookkept (moment : Moment venue) : Prop where
  held : ∀ bot held, moment.state.helds[bot]? = some held → moment.state.Bought bot held
  read : ∀ caller reading, closing.phase moment caller = some reading →
    moment.state.Bought reading.bot reading.held
  flown : ∀ caller fill, (lane.phase moment caller).flight = some fill → fill ∈ moment.state.fills

theorem fills_grow (op : Op) (fate : Fate op) (desk : Desk) :
    desk.fills <+: (perform op fate desk).1.fills := by
  cases op with
  | placeOrder bot order =>
    cases fate with
    | rejected message => exact List.prefix_refl _
    | filled qty nonneg => exact List.prefix_append _ _
  | _ =>
    have same := @perform_fills _ fate (fun bot order places => by cases places) desk
    exact same.symm ▸ List.prefix_refl _

variable {fate : Fate op} {held : ℚ}

theorem Desk.Bought.later {desk : Desk} {bot : ℕ} (bought : desk.Bought bot held) :
    (perform op fate desk).1.Bought bot held :=
  bought.imp_right fun member => (fills_grow op fate desk).subset member

/-- What a caller is about to enter after an operation, it was about to enter before or has just
been filled with. -/
theorem flight_of_next {phase : Phase} {reply : Except String (Result op)} {fill : Fill}
    (flies : (phase.next op reply).flight = some fill) :
    phase.flight = some fill ∨ ∃ bot order qty, op = .placeOrder bot order ∧
      HEq reply (Except.ok qty : Except String ℚ) ∧ fill = ⟨bot, order.side, qty⟩ := by
  cases reply with
  | error failure => cases op <;> first | exact .inl flies | cases flies
  | ok result =>
    cases op with
    | placeOrder bot order =>
      have filled : (phase.filled bot order.side result).flight = some fill := flies
      unfold Phase.filled at filled
      split at filled
      · exact .inl filled
      · exact .inr ⟨bot, order, result, rfl, HEq.rfl, (Option.some.inj filled).symm⟩
    | fire bot => cases result <;> exact .inl flies
    | clearTimer => cases result <;> exact .inl flies
    | beginProbe bot => cases result <;> exact .inl flies
    | _ => first | exact .inl flies | cases flies

theorem fills_placed {bot : ℕ} {order : Order} {fate : OrderFate} {desk : Desk} {qty : ℚ}
    (answered : (sendOrder bot order desk fate).2 = .ok qty) :
    (⟨bot, order.side, qty⟩ : Fill) ∈ (sendOrder bot order desk fate).1.fills := by
  cases fate with
  | rejected message => cases answered
  | filled filled nonneg =>
    rw [← Except.ok.inj answered]
    exact List.mem_append_right _ List.mem_cons_self

/-- Operations that change nothing that a bot holds. -/
def Unheld : Op → Prop
  | .installBot _ _ => False
  | .setLong _ _ _ => False
  | .setFlat _ => False
  | _ => True

theorem helds_unheld (unheld : Unheld op) (fate : Fate op) (desk : Desk) :
    (perform op fate desk).1.helds = desk.helds := by
  refine perform_view _ (fun settings peak installs => ?_) (fun found => ?_) desk
  · rw [installs] at unheld
    exact unheld
  · cases op with
    | beginProbe bot =>
      show found.probed.baseQtyHeld = _
      unfold LiveBot.probed
      split <;> rfl
    | _ => first | exact unheld.elim | rfl

theorem helds_set {desk : Desk} {bot : ℕ} {change : LiveBot → LiveBot} {Answer : Type}
    {answer : LiveBot → Answer} {qty : ℚ} (sets : ∀ found, (change found).baseQtyHeld = qty)
    {other : ℕ} {held : ℚ}
    (isHeld : (withBot desk bot (fun _ => desk.onBot bot change) answer).1.helds[other]? =
      some held) : desk.helds[other]? = some held ∨ other = bot ∧ held = qty := by
  cases isBot : desk.bots[bot]? with
  | none =>
    rw [withBot_of_none isBot] at isHeld
    exact .inl isHeld
  | some found =>
    rw [withBot_of_some isBot] at isHeld
    have changed : (desk.onBot bot change).helds = desk.helds.set bot qty := by
      rw [← sets found]
      exact onBot_set LiveBot.baseQtyHeld change isBot
    rw [show (desk.onBot bot change).helds = _ from changed] at isHeld
    rcases found_of_set isHeld with ⟨same, isQty⟩ | ⟨-, old⟩
    · exact .inr ⟨same.symm, isQty⟩
    · exact .inl old

/-- What a bot holds after an operation, it held before, or it is nothing, or it has been set. -/
theorem held_cases {desk : Desk} {bot : ℕ}
    (isHeld : (perform op fate desk).1.helds[bot]? = some held) :
    desk.helds[bot]? = some held ∨ held = 0 ∨ ∃ price, op = .setLong bot held price := by
  by_cases unheld : Unheld op
  · rw [helds_unheld unheld] at isHeld
    exact .inl isHeld
  · cases op with
    | installBot settings peak =>
      have grown : (perform (.installBot settings peak) fate desk).1.helds = desk.helds ++ [0] :=
        List.map_append
      rw [grown] at isHeld
      exact (found_of_concat isHeld).imp_right fun new => .inl new.2
    | setLong other qty price =>
      rcases @helds_set desk other _ Unit (fun _ => ()) qty (fun _ => rfl) bot held isHeld with
        old | ⟨same, isQty⟩
      · exact .inl old
      · exact .inr (.inr ⟨price, by rw [same, isQty]⟩)
    | setFlat other =>
      exact (@helds_set desk other _ Unit (fun _ => ()) 0 (fun _ => rfl) bot held isHeld).imp_right
        fun new => .inl new.2
    | _ => exact absurd trivial unheld

/-- What a caller has read after an operation, it had read before, or the bot holds it. -/
theorem read_cases {phase : Option Reading} {desk : Desk} {reading : Reading}
    (hasRead : closing.next phase op (perform op fate desk).2 = some reading) :
    phase = some reading ∨ desk.helds[reading.bot]? = some reading.held := by
  cases op with
  | readBot bot =>
    cases isBot : desk.bots[bot]? with
    | none =>
      rw [show perform (.readBot bot) fate desk = _ from withBot_of_none isBot _ _] at hasRead
      exact .inl hasRead
    | some found =>
      rw [show perform (.readBot bot) fate desk = _ from withBot_of_some isBot _ _] at hasRead
      rw [← Option.some.inj hasRead]
      refine .inr ?_
      unfold Desk.helds
      rw [List.getElem?_map, isBot]
      rfl
  | _ => exact .inl hasRead

theorem bookkept_step {step : Step venue}
    (permitted : lane.permits (lane.phase step.before step.caller) step.op)
    (books : Bookkept step.before) : Bookkept step.after := by
  have later {bot : ℕ} {held : ℚ} (bought : step.before.state.Bought bot held) :
      step.after.state.Bought bot held := bought.later
  refine ⟨fun bot held isHeld => ?_, fun caller reading hasRead => ?_, fun caller fill flies => ?_⟩
  · rcases held_cases isHeld with old | isZero | ⟨price, sets⟩
    · exact later (books.held bot held old)
    · exact .inl isZero
    · rw [sets] at permitted
      exact later (.inr (books.flown step.caller _ permitted))
  · rw [Protocol.phases_after] at hasRead
    by_cases same : caller = step.caller
    · rw [same, Function.update_self] at hasRead
      rcases read_cases hasRead with old | holds
      · exact later (books.read step.caller reading old)
      · exact later (books.held reading.bot reading.held holds)
    · rw [Function.update_of_ne same] at hasRead
      exact later (books.read caller reading hasRead)
  · rw [Protocol.phases_after] at flies
    by_cases same : caller = step.caller
    · rw [same, Function.update_self] at flies
      obtain ⟨before, caller, op, fate⟩ := step
      rcases flight_of_next flies with old | ⟨bot, order, qty, rfl, answered, rfl⟩
      · exact (fills_grow op fate before.state).subset (books.flown caller fill old)
      · exact fills_placed (eq_of_heq answered)
    · rw [Function.update_of_ne same] at flies
      exact (fills_grow _ _ _).subset (books.flown caller fill flies)

/-! ### Runs -/

theorem closing_permits (requests : List Request) (turns : List (Turn venue)) :
    ∀ step ∈ (liveSystem requests).steps turns,
      closing.permits (closing.phase step.before step.caller) step.op :=
  closing_walks.permitted requests turns

/-- In a run, what a caller has read that a bot holds is nothing, or what a BUY of the bot was
filled with. -/
theorem bought_of_mem_steps (requests : List Request) (turns : List (Turn venue)) :
    ∀ step ∈ (liveSystem requests).steps turns,
      ∀ reading ∈ closing.phase step.before step.caller,
        step.before.state.Bought reading.bot reading.held := by
  have start : Bookkept (liveSystem requests).moment := ⟨nofun, nofun, nofun⟩
  refine (@System.run_keeps venue Unit Bookkept
    (fun step => lane.permits (lane.phase step.before step.caller) step.op)
    (fun step => ∀ reading ∈ closing.phase step.before step.caller,
      step.before.state.Bought reading.bot reading.held)
    (fun step books permitted => ⟨fun reading hasRead => books.read step.caller reading hasRead,
      bookkept_step permitted books⟩) _ start turns (permits_of_mem_steps requests turns)).2

/-- In every run what a bot holds, and what a caller has read that it holds, is nothing, or what
a BUY of the bot was filled with. -/
theorem holdings_bought (requests : List Request) (turns : List (Turn venue)) :
    Bookkept ((liveSystem requests).run turns).moment := by
  have start : Bookkept (liveSystem requests).moment := ⟨nofun, nofun, nofun⟩
  refine (@System.run_keeps venue Unit Bookkept
    (fun step => lane.permits (lane.phase step.before step.caller) step.op) (fun _ => True)
    (fun _ books permitted => ⟨trivial, bookkept_step permitted books⟩) _ start turns
    (permits_of_mem_steps requests turns)).1

/-- The lots of a SELL fit the free balance if and only if it is closable. -/
theorem closable_iff_covers {rules : String → Option SymbolRules} {fee : ℚ} {step : Step venue}
    (permitted : closing.permits (closing.phase step.before step.caller) step.op) :
    Closable rules fee step ↔ Covers rules fee step := by
  obtain ⟨before, caller, op, fate⟩ := step
  cases op with
  | placeOrder bot order =>
    obtain ⟨side, quantity⟩ := order
    cases side with
    | buy => exact Iff.rfl
    | sell =>
      obtain ⟨held, hasRead, isQuantity⟩ := permitted
      have same : closing.phase before caller = some ⟨bot, held⟩ := hasRead
      have lots (symbol : String) (free : ℚ) :
          (∀ sent ∈ (marketQuantity (rules symbol) quantity).toOption, sent ≤ free) ↔
            match rules symbol with
            | none => formatBaseQty held ≤ free
            | some known => known.Fits (formatBaseQty held) free := by
        rw [isQuantity]
        cases rules symbol with
        | none => exact ⟨fun all => all _ rfl, fun covered sent isSent => by
            rwa [← Option.some.inj isSent]⟩
        | some known =>
          refine Iff.trans ⟨fun all sent isSent => all sent ?_, fun all sent isSent => all sent ?_⟩
            SymbolRules.fits_iff.symm
          · rw [isSent]
            rfl
          · exact Orders.eq_ok_of_mem_toOption isSent
      constructor
      · intro closable reading isReading symbol isSymbol
        have isRead : reading = ⟨bot, held⟩ := Option.some.inj (isReading.symm.trans same)
        rw [isRead]
        exact (lots symbol _).mp (closable symbol isSymbol)
      · intro covers symbol isSymbol
        exact (lots symbol _).mpr (covers ⟨bot, held⟩ same symbol isSymbol)
  | _ => exact Iff.rfl

/-- A BUY of eight decimals, credited less the commission, and nothing else in the account: its
lots fit if and only if the commission is at most what lies beyond them, and they are not raised
to the smallest lot. -/
theorem fits_bought_iff {known : SymbolRules} {fee greatest least : ℚ} (units : ℤ)
    (eight : held * 10 ^ 8 = units) (positive : 0 < known.lot.stepSize.value)
    (nonneg : 0 ≤ held * fee) (isGreatest : IsGreatest {lots | known.Holds held lots} greatest)
    (isLeast : IsLeast {lots | known.LeastLots lots} least) :
    known.Fits (formatBaseQty held) (held * (1 - fee)) ↔
      (known.Within greatest → held * fee ≤ held - greatest) ∧
        (¬ known.Reaches greatest → ¬ known.Within least) := by
  rw [formatBaseQty, Numeric.toFixed_value_of_units units eight]
  exact SymbolRules.fits_credited_iff positive nonneg isGreatest isLeast

/-- Lots of a thousandth of a coin. -/
def coinRules : SymbolRules := ⟨"BTCUSDT", ⟨⟨1, 3⟩, ⟨9000, 0⟩, ⟨1, 3⟩⟩, 5⟩

/-- The venue fills every order with one coin at most. -/
def oneCoin : (op : Op) → Fate op
  | .placeOrder _ _ => .filled 1 (by norm_num)
  | .fetchPrice _ => some 50000
  | .fetchBinanceUsdtBalance => none
  | .readBot _ => 0
  | .stampExecution _ => 0
  | .setFlat _ => 0
  | .currentTime => 0
  | .isRunning => ()
  | .installBot _ _ => ()
  | .fire _ => ()
  | .settle _ => ()
  | .clearTimer => ()
  | .removeBot => ()
  | .emergencyRemove _ => ()
  | .openTick _ => ()
  | .claimFirstTick _ => ()
  | .beginProbe _ => ()
  | .overwriteSize _ _ => ()
  | .restoreSize _ _ => ()
  | .reduceSize _ _ => ()
  | .observeEquity _ _ => ()
  | .setLong _ _ _ => ()
  | .findPortfolio => .ok (some 0)
  | .updatePortfolio _ => .ok ()
  | .appendTradingLog _ _ => .ok ()
  | .getCexExitSettings => .ok ⟨false, 0, 0⟩
  | .evaluateTradeIntent _ _ _ => .error "unavailable"
  | .computeAISignal _ => .ok none
  | .findClosedPnls => .ok []
  | .findActiveSession => .ok none
  | .countOrdersSince _ => .ok 0
  | .persistStop _ => .ok ()

end GdslExchange.Live
