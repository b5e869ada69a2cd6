/-
This file settles when an advanced bot reacts to every closed bar: when no bar of one minute of
its symbol closes while it listens.

A record is no symbol, so the handler turns every event away, and the only tick of a bot is the
one that its start begins. For the same reason a bot never has two positions.
-/

import GdslExchange.Advanced.Bot

namespace GdslExchange.Advanced

open Async Async.Program
open Market (Interval)
open Paper (PaperConfig)
open Protocol (Anywhere Follows anywhere ends permitted phases_after)

/-! ### What a run should keep -/

namespace Desk

variable (desk : Desk)

def listeners (symbol : String) (interval : Interval) : List ℕ :=
  ((desk.bots.mapIdx Found.mk).filter fun found =>
    found.bot.listening ∧ found.bot.config.symbol = symbol ∧ interval = .oneMinute).map Found.index

def openers : List ℕ := desk.trades.map Trade.bot

def openBots : List ℕ := (desk.trades.filter fun trade => trade.status = .opened).map Trade.bot

end Desk

/-- A closed bar starts one tick of each bot that listens to it, and nothing else starts a tick. -/
def TicksOnBars (step : Step market) : Prop :=
  match step.op with
  | .emit symbol interval => step.after.state.pending =
      step.before.state.pending ++ step.before.state.listeners symbol interval
  | .nextTick => step.after.state.pending = step.before.state.pending.tail
  | _ => step.after.state.pending = step.before.state.pending

instance (step : Step market) : Decidable (TicksOnBars step) := by
  unfold TicksOnBars
  split <;> infer_instance

/-- Besides, no bot has two positions. -/
def Sound (step : Step market) : Prop := TicksOnBars step ∧ step.after.state.openBots.Nodup

instance (step : Step market) : Decidable (Sound step) := inferInstanceAs (Decidable (_ ∧ _))

/-- No bar closes that a bot listens to. -/
def Quiet (step : Step market) : Prop :=
  match step.op with
  | .emit symbol interval =>
    ¬ (interval = .oneMinute ∧
      ∃ bot ∈ step.before.state.bots, bot.listening ∧ bot.config.symbol = symbol)
  | _ => True

/-! ### Events -/

theorem onClose_record (config : Config) (symbol : String) (interval : Interval)
    (other : Argument) : onClose config (.record symbol interval) other = false := by
  simp [onClose]

theorem started_barClosed (desk : Desk) (symbol : String) (interval : Interval) :
    desk.started (barClosed symbol interval) = [] := by
  simp [Desk.started, callWith, barClosed, onClose_record]

theorem listeners_eq_nil {desk : Desk} {symbol : String} {interval : Interval} :
    desk.listeners symbol interval = [] ↔ ¬ (interval = .oneMinute ∧
      ∃ bot ∈ desk.bots, bot.listening ∧ bot.config.symbol = symbol) := by
  unfold Desk.listeners
  rw [List.map_eq_nil_iff, List.filter_eq_nil_iff]
  constructor
  · rintro silent ⟨isMinute, bot, member, listening, isSymbol⟩
    obtain ⟨index, inside, rfl⟩ := List.getElem_of_mem member
    refine silent ⟨index, desk.bots[index]⟩ (List.mem_iff_getElem.mpr ⟨index, ?_, ?_⟩) ?_
    · rwa [List.length_mapIdx]
    · rw [List.getElem_mapIdx]
    · simp [listening, isSymbol, isMinute]
  · intro silent found member hears
    obtain ⟨index, inside, rfl⟩ := List.mem_mapIdx.mp member
    obtain ⟨listening, isSymbol, isMinute⟩ := of_decide_eq_true hears
    exact silent ⟨isMinute, _, List.getElem_mem inside, listening, isSymbol⟩

/-! ### Callers -/

/-- A caller has the tick of a bot, until it opens a position. -/
def next (phase : Option ℕ) : (op : Op) → Except String (Result op) → Option ℕ
  | .install _ _, .ok bot => some bot
  | .nextTick, .ok (some found) => some found.index
  | .createTrade _, _ => none
  | _, _ => phase

/-- Only a caller that has the tick of a bot opens a position for it. -/
def lane : Protocol market (Option ℕ) where
  start := none
  permits phase
    | .createTrade trade => phase = some trade.bot
    | _ => True
  next := next

/-- Operations that are always permitted and lead nowhere. -/
def Plain : Op → Prop
  | .install _ _ => False
  | .nextTick => False
  | .createTrade _ => False
  | _ => True

theorem Plain.neutral {op : Op} (plain : Plain op) (phase : Option ℕ) : lane.Neutral phase op := by
  cases op <;> first | exact plain.elim | exact ⟨trivial, fun _ => rfl⟩

theorem stays_plain {Value : Type} {program : Call Value} (only : program.Only Plain)
    (phase : Option ℕ) : lane.Stays phase program :=
  Follows.neutral (only.mono fun _ plain => plain.neutral phase)

theorem anywhere_plain {Value : Type} {program : Call Value} (only : program.Only Plain) :
    lane.Anywhere program :=
  Anywhere.only (only.mono fun _ plain phase => (plain.neutral phase).1)

section Calls

variable (paper : PaperConfig)

theorem only_paperClosePosition (userId : String) (trade : Option ℕ) (exitBid : ℚ) :
    (paperClosePosition paper userId trade exitBid).Only Plain := by
  refine only_then trivial fun found => ?_
  cases found with
  | none => trivial
  | some stored =>
    refine only_then trivial fun _ => ?_
    refine only_then trivial fun _ => ?_
    exact only_then trivial fun _ => trivial

theorem only_closeLive (bot : ℕ) (userId : String) (markPrice entryPrice : ℚ) (trade : ℕ) :
    (closeLive bot userId markPrice entryPrice trade).Only Plain := by
  refine only_then trivial fun _ => ?_
  refine only_then trivial fun _ => ?_
  refine only_then trivial fun _ => ?_
  exact only_then trivial fun _ => trivial

theorem only_closePaper (bot : ℕ) (config : Config) (markPrice : ℚ) :
    (closePaper paper bot config markPrice).Only Plain := by
  refine only_then trivial fun book => ?_
  refine only_then trivial fun state => ?_
  refine only_bind (only_paperClosePosition paper _ _ _) fun pnl => ?_
  cases pnl with
  | none => trivial
  | some pnl =>
    refine only_then trivial fun _ => ?_
    exact only_then trivial fun _ => trivial

theorem only_closePosition (bot : ℕ) (config : Config) (markPrice : ℚ) :
    (closePosition paper bot config markPrice).Only Plain := by
  refine only_then trivial fun state => ?_
  cases state.currentTradeId with
  | none => trivial
  | some trade =>
    cases config.mode with
    | paper => exact only_closePaper paper bot config markPrice
    | live => exact only_closeLive bot _ _ _ trade

theorem only_trailingExit (bot : ℕ) (config : Config) (price atr14 entryPrice : ℚ) :
    (trailingExit paper bot config price atr14 entryPrice).Only Plain := by
  unfold trailingExit
  split
  · refine only_then trivial fun trailingStop => ?_
    split
    · exact only_bind (only_closePosition paper bot config price) fun _ => trivial
    · trivial
  · trivial

theorem only_hardExits (bot : ℕ) (config : Config) (price : ℚ) :
    (hardExits paper bot config price).Only Plain := by
  refine only_then trivial fun bars => ?_
  split
  · refine only_then trivial fun state => ?_
    split
    · exact only_bind (only_closePosition paper bot config price) fun _ => trivial
    · split
      · exact only_bind (only_closePosition paper bot config price) fun _ => trivial
      · exact only_trailingExit paper bot config price _ _
  · trivial

theorem only_exitsIfLong (bot : ℕ) (config : Config) (price : ℚ) :
    (exitsIfLong paper bot config price).Only Plain := by
  refine only_then trivial fun state => ?_
  split
  · exact only_hardExits paper bot config price
  · trivial

theorem only_stop (userId : String) : (stop paper userId).Only Plain := by
  refine only_then trivial fun found => ?_
  have stopped : (stopPosition paper found.index found.bot.config).Only Plain := by
    refine only_then trivial fun recent => ?_
    refine only_then trivial fun state => ?_
    cases found.bot.config.mode with
    | paper =>
      refine only_then trivial fun book => ?_
      refine only_then trivial fun later => ?_
      exact only_bind (only_paperClosePosition paper _ _ _) fun _ => only_perform trivial
    | live => exact only_closePosition paper _ _ _
  split
  · exact only_bind stopped fun _ => only_perform trivial
  · exact only_perform trivial

theorem only_emit (symbol : String) (interval : Interval) :
    (notifyBarClosed symbol interval).Only Plain := only_perform trivial

/-! ### Opening -/

variable (bot : ℕ) (config : Config)

theorem only_positionRange (markPrice : ℚ) : (positionRange config markPrice).Only Plain :=
  only_recover (only_then trivial fun _ => trivial) fun _ => trivial

def Ticking {Value : Type} (program : Call Value) : Prop :=
  lane.Follows (some bot) program anywhere

variable {Value : Type}

theorem ticking_plain {Next : Type} {first : Call Value} {next : Value → Call Next}
    (only : first.Only Plain) (tail : ∀ value, Ticking bot (next value)) :
    Ticking bot (first >>= next) :=
  (stays_plain only (some bot)).andThen tail trivial

theorem ticking_then {Next : Type} {first : Call Value} {next : Value → Call Next}
    (ticking : Ticking bot first) (tail : ∀ value, (next value).Only Plain) :
    Ticking bot (first >>= next) :=
  Follows.bind ticking fun value reached _ => anywhere_plain (tail value) reached

theorem ticking_create {trade : Trade} (own : trade.bot = bot) :
    Ticking bot (await (.createTrade trade)) :=
  Follows.perform (congrArg some own.symm) (fun _ => trivial) fun _ => trivial

theorem ticking_openPosition (markPrice sizeUsdt : ℚ) :
    Ticking bot (openPosition paper bot config markPrice sizeUsdt) := by
  refine ticking_plain bot (only_positionRange config markPrice) fun atrVal => ?_
  cases config.mode with
  | paper =>
    refine ticking_plain bot (only_perform trivial) fun book => ?_
    refine ticking_then bot (ticking_then bot (ticking_create bot rfl) fun id => ?_) fun created => ?_
    · exact only_then trivial fun _ => trivial
    · refine only_then trivial fun _ => ?_
      exact only_then trivial fun _ => trivial
  | live => exact ticking_then bot (ticking_create bot rfl) fun trade => only_perform trivial

theorem ticking_of_only {program : Call Value} (only : program.Only Plain) :
    Ticking bot program := anywhere_plain only (some bot)

theorem ticking_execute (price : ℚ) (decision : MetaDecision) (position : Position) :
    Ticking bot (execute paper bot config price decision position) := by
  unfold execute
  split
  · exact ticking_openPosition paper bot config price _
  · split
    · exact ticking_of_only bot (only_closePosition paper bot config price)
    · trivial

/-- A tick opens one position at most. -/
theorem ticking_tick : Ticking bot (tick paper bot config) := by
  refine ticking_plain bot (only_perform trivial) fun recent => ?_
  cases recent with
  | nil => trivial
  | cons bar rest =>
    refine ticking_plain bot (only_exitsIfLong paper bot config bar.close) fun ended => ?_
    cases ended with
    | true => trivial
    | false =>
      refine ticking_plain bot (only_perform trivial) fun state => ?_
      refine ticking_plain bot (only_perform trivial) fun decision => ?_
      refine ticking_plain bot (only_perform trivial) fun later => ?_
      exact ticking_then bot (ticking_execute paper bot config bar.close _ _)
        fun _ => only_perform trivial

theorem ticking_runTick : Ticking bot (runTick paper bot config) :=
  Follows.recover (ticking_tick paper bot config) fun _ _ _ => trivial

end Calls

theorem call_follows (paper : PaperConfig) (request : Request) :
    lane.Follows none (request.call paper) anywhere := by
  cases request with
  | start config initialEquity =>
    exact Follows.moves some trivial (fun _ => rfl) (fun _ => trivial) fun bot =>
      ticking_runTick paper bot config
  | stop userId => exact anywhere_plain (only_stop paper userId) none
  | bar symbol interval => exact anywhere_plain (only_emit symbol interval) none
  | tick =>
    refine Follows.moves (Option.map Found.index) trivial (fun found => ?_) (fun _ => trivial)
      fun found => ?_
    · cases found <;> rfl
    cases found with
    | none => trivial
    | some found => exact ticking_runTick paper found.index found.bot.config

/-! ### Openers -/

/-- No bot has opened two positions, and a caller that has the tick of a bot has it alone, and the
bot has opened nothing yet. -/
structure Single (callers : ℕ → Option ℕ) (openers : List ℕ) (bots : ℕ) : Prop where
  openers_nodup : openers.Nodup
  known : ∀ opener ∈ openers, opener < bots
  fresh : ∀ caller bot, callers caller = some bot → bot < bots ∧ bot ∉ openers
  alone : ∀ caller other bot, callers caller = some bot → callers other = some bot → caller = other

namespace Single

variable {callers : ℕ → Option ℕ} {openers : List ℕ} {bots caller : ℕ}

theorem install (single : Single callers openers bots) :
    Single (Function.update callers caller (some bots)) openers (bots + 1) where
  openers_nodup := single.openers_nodup
  known opener member := Nat.lt_succ_of_lt (single.known opener member)
  fresh := by
    intro other bot has
    by_cases same : other = caller
    · rw [same, Function.update_self] at has
      rw [← Option.some.inj has]
      exact ⟨Nat.lt_succ_self bots, fun member => Nat.lt_irrefl _ (single.known _ member)⟩
    · rw [Function.update_of_ne same] at has
      obtain ⟨inside, unopened⟩ := single.fresh other bot has
      exact ⟨Nat.lt_succ_of_lt inside, unopened⟩
  alone := by
    have isCaller : ∀ other bot, Function.update callers caller (some bots) other = some bot →
        bot = bots → other = caller := by
      intro other bot has isNew
      by_contra different
      rw [Function.update_of_ne different] at has
      exact Nat.lt_irrefl _ (isNew ▸ (single.fresh other bot has).1)
    intro first second bot hasFirst hasSecond
    by_cases isNew : bot = bots
    · rw [isCaller first bot hasFirst isNew, isCaller second bot hasSecond isNew]
    · have isOld : ∀ other, Function.update callers caller (some bots) other = some bot →
          callers other = some bot := by
        intro other has
        by_cases same : other = caller
        · rw [same, Function.update_self] at has
          exact absurd (Option.some.inj has).symm isNew
        · rwa [Function.update_of_ne same] at has
      exact single.alone first second bot (isOld first hasFirst) (isOld second hasSecond)

/-- A caller that gives its tick up. -/
theorem release (single : Single callers openers bots) :
    Single (Function.update callers caller none) openers bots := by
  have kept : ∀ other bot, Function.update callers caller none other = some bot →
      callers other = some bot := by
    intro other bot has
    by_cases same : other = caller
    · rw [same, Function.update_self] at has
      cases has
    · rwa [Function.update_of_ne same] at has
  exact ⟨single.openers_nodup, single.known, fun other bot has => single.fresh other bot
    (kept other bot has), fun first second bot hasFirst hasSecond =>
    single.alone first second bot (kept first bot hasFirst) (kept second bot hasSecond)⟩

theorem opened {bot : ℕ} (single : Single callers openers bots) (has : callers caller = some bot) :
    Single (Function.update callers caller none) (openers ++ [bot]) bots := by
  have released := @release callers openers bots caller single
  obtain ⟨inside, unopened⟩ := single.fresh caller bot has
  refine ⟨?_, ?_, fun other found hasFound => ?_, released.alone⟩
  · exact List.nodup_append.mpr ⟨single.openers_nodup, List.nodup_singleton bot,
      fun first member second isBot same => unopened (by
        rw [← List.mem_singleton.mp isBot, ← same]
        exact member)⟩
  · intro opener member
    rcases List.mem_append.mp member with old | new
    · exact single.known opener old
    · rw [List.mem_singleton.mp new]
      exact inside
  · obtain ⟨isInside, isUnopened⟩ := released.fresh other found hasFound
    refine ⟨isInside, fun member => ?_⟩
    rcases List.mem_append.mp member with old | new
    · exact isUnopened old
    · have different : other ≠ caller := by
        rintro rfl
        rw [Function.update_self] at hasFound
        cases hasFound
      rw [Function.update_of_ne different, List.mem_singleton.mp new] at hasFound
      exact different (single.alone other caller bot hasFound has)

end Single

/-- No tick waits that an event has started, and the bots open their positions once. -/
structure Calm (moment : Moment market) : Prop where
  pending : moment.state.pending = []
  single : Single (lane.phase moment) moment.state.openers moment.state.bots.length

/-! ### Steps -/

theorem openBots_sublist (desk : Desk) : desk.openBots.Sublist desk.openers :=
  List.filter_sublist.map Trade.bot

theorem withBot_same {Part Answer : Type} {part : Desk → Part} {desk : Desk} {bot : ℕ}
    {change : Bot → Bot} {answer : Bot → Answer} (same : part (desk.onBot bot change) = part desk) :
    part (withBot desk bot change answer).1 = part desk := by
  unfold withBot
  split
  · exact same
  · rfl

/-- A row keeps its opener when it is closed. -/
theorem openers_modify (trades : List Trade) (trade : ℕ) (exitPrice pnl : ℚ) :
    (trades.modify trade (Trade.close · exitPrice pnl)).map Trade.bot = trades.map Trade.bot := by
  refine List.ext_getElem? fun index => ?_
  rw [List.getElem?_map, List.getElem?_map, List.getElem?_modify]
  cases trades[index]? with
  | none => rfl
  | some row => split <;> rfl

/-- What the invariant looks at. -/
def Desk.outline (desk : Desk) : List ℕ × List ℕ × ℕ :=
  (desk.pending, desk.openers, desk.bots.length)

theorem outline_onBot (desk : Desk) (bot : ℕ) (change : Bot → Bot) :
    (desk.onBot bot change).outline = desk.outline := by
  unfold Desk.outline Desk.onBot Desk.openers
  rw [List.length_modify]

/-- A plain operation leaves the outline, while no event starts a tick. -/
theorem outline_plain {op : Op} (plain : Plain op) (fate : Fate op) (desk : Desk) :
    (perform op fate desk).1.outline = desk.outline := by
  have onBot {Answer : Type} (bot : ℕ) (change : Bot → Bot) (answer : Bot → Answer) :
      (withBot desk bot change answer).1.outline = desk.outline :=
    withBot_same (outline_onBot desk bot change)
  cases op with
  | install config initialEquity => exact plain.elim
  | nextTick => exact plain.elim
  | createTrade trade => exact plain.elim
  | detach userId =>
    simp only [perform]
    split
    · rfl
    · exact outline_onBot desk _ _
  | remove userId => simp [perform, Desk.outline, Desk.openers]
  | emit symbol interval => simp [perform, Desk.outline, Desk.openers, started_barClosed]
  | readBot bot => exact onBot bot _ _
  | raiseTrail bot newTrail => exact onBot bot _ _
  | countBar bot => exact onBot bot _ _
  | setLong bot execPx atrVal trade => exact onBot bot _ _
  | setFlat bot pnl => exact onBot bot _ _
  | findOpenTrade trade userId =>
    cases trade with
    | none => rfl
    | some trade => rfl
  | closeTrade trade exitPrice pnl =>
    simp only [perform, Delivery.update]
    split
    · rfl
    · refine Delivery.write_same ?_
      unfold Desk.outline Desk.openers
      rw [openers_modify]
  | _ => rfl

variable {step : Step market}

/-- A step that leaves the outline and the phase of its caller. -/
theorem Calm.plain (plain : Plain step.op) (calm : Calm step.before) :
    Calm step.after := by
  have outline : step.after.state.outline = step.before.state.outline :=
    outline_plain plain step.fate step.before.state
  have phases : lane.phase step.after = lane.phase step.before := by
    rw [phases_after, (plain.neutral _).2, Function.update_eq_self]
  obtain ⟨pending, rest⟩ := Prod.ext_iff.mp outline
  obtain ⟨openers, length⟩ := Prod.ext_iff.mp rest
  refine ⟨pending.trans calm.pending, ?_⟩
  rw [phases, show step.after.state.openers = _ from openers,
    show step.after.state.bots.length = _ from length]
  exact calm.single

theorem calm_of_performed {desk : Desk} {answer : Except String (Result step.op)}
    (performed : perform step.op step.fate step.before.state = (desk, answer))
    (pending : desk.pending = [])
    (single : Single (Function.update (lane.phase step.before) step.caller
      (next (lane.phase step.before step.caller) step.op answer)) desk.openers desk.bots.length) :
    Calm step.after := by
  have state : step.after.state = desk := congrArg Prod.fst performed
  have reply : step.reply = answer := congrArg Prod.snd performed
  refine ⟨?_, ?_⟩
  · rw [state]
    exact pending
  · rw [phases_after, reply, state]
    exact single

theorem calm_step (permitted : lane.permits (lane.phase step.before step.caller) step.op)
    (calm : Calm step.before) : Calm step.after := by
  obtain ⟨before, caller, op, fate⟩ := step
  by_cases plain : Plain op
  · exact Calm.plain plain calm
  · cases op with
    | install config initialEquity =>
      by_cases runs : before.state.runs config.userId
      · refine calm_of_performed (if_pos runs) calm.pending ?_
        show Single (Function.update _ caller (lane.phase before caller)) _ _
        rw [Function.update_eq_self]
        exact calm.single
      · refine calm_of_performed (if_neg runs) calm.pending ?_
        rw [List.length_append]
        exact calm.single.install
    | nextTick =>
      have performed : perform .nextTick fate before.state = (before.state, .ok none) := by
        obtain ⟨⟨bots, trades, pending⟩, log⟩ := before
        rw [show pending = [] from calm.pending]
        rfl
      refine calm_of_performed performed calm.pending ?_
      show Single (Function.update _ caller (lane.phase before caller)) _ _
      rw [Function.update_eq_self]
      exact calm.single
    | createTrade trade =>
      have has : lane.phase before caller = some trade.bot := permitted
      rcases performed : perform (.createTrade trade) fate before.state with ⟨desk, answer⟩
      have wrote : desk = { before.state with trades := before.state.trades ++ [trade] } ∨
          desk = before.state := by
        have state : (perform (.createTrade trade) fate before.state).1 = desk :=
          congrArg Prod.fst performed
        rw [← state]
        exact Delivery.write_cases
      refine calm_of_performed performed ?_ ?_
      · rcases wrote with rfl | rfl <;> exact calm.pending
      · show Single (Function.update _ caller none) _ _
        rcases wrote with rfl | rfl
        · rw [Desk.openers, List.map_append]
          exact calm.single.opened has
        · exact calm.single.release
    | _ => exact absurd trivial plain

/-- The sole step that can break the property is a closed bar that a bot listens to. -/
theorem sound_iff_quiet (calm : Calm step.before) (later : Calm step.after) :
    Sound step ↔ Quiet step := by
  have single : step.after.state.openBots.Nodup :=
    later.single.openers_nodup.sublist (openBots_sublist step.after.state)
  have ticks : TicksOnBars step ↔ Quiet step := by
    obtain ⟨before, caller, op, fate⟩ := step
    have pendingBefore : before.state.pending = [] := calm.pending
    cases op with
    | emit symbol interval =>
      show _ = _ ++ before.state.listeners symbol interval ↔ _
      rw [later.pending, pendingBefore, List.nil_append, eq_comm]
      exact listeners_eq_nil
    | nextTick =>
      refine iff_of_true ?_ trivial
      show _ = before.state.pending.tail
      rfl
    | _ => exact iff_of_true (later.pending.trans pendingBefore.symm) trivial
  exact ⟨fun sound => ticks.mp sound.1, fun quiet => ⟨ticks.mpr quiet, single⟩⟩

/-! ### Runs -/

theorem calm_start (paper : PaperConfig) (requests : List Request) :
    Calm (advancedSystem paper requests).moment :=
  ⟨rfl, List.nodup_nil, nofun, nofun, nofun⟩

theorem permits_of_mem_steps (paper : PaperConfig) (requests : List Request)
    (turns : List (Turn market)) : ∀ step ∈ (advancedSystem paper requests).steps turns,
      lane.permits (lane.phase step.before step.caller) step.op :=
  permitted (System.each_call fun _ request => call_follows paper request) turns

/-- In a run every closed bar of one minute starts one tick of each bot that listens to its symbol,
nothing else starts one, and no bot has two positions, if and only if no such bar closes. -/
theorem reacts_iff (paper : PaperConfig) (requests : List Request) (turns : List (Turn market)) :
    (∀ step ∈ (advancedSystem paper requests).steps turns, Sound step) ↔
      ∀ step ∈ (advancedSystem paper requests).steps turns, Quiet step := by
  have exactly : ∀ step ∈ (advancedSystem paper requests).steps turns, Sound step ↔ Quiet step :=
    (@System.run_keeps market Unit Calm
      (fun step => lane.permits (lane.phase step.before step.caller) step.op)
      (fun step => Sound step ↔ Quiet step)
      (fun step calm permitted =>
        ⟨sound_iff_quiet calm (calm_step permitted calm), calm_step permitted calm⟩)
      _ (calm_start paper requests) turns (permits_of_mem_steps paper requests turns)).2
  exact forall₂_congr exactly

/-- The bot of a user on one symbol. -/
def bitcoinBot : Config := ⟨"alice", "advanced-ai", "BTCUSDT", "BTC/USDT", .paper⟩

/-- A market of which nothing is known. -/
def silent : (op : Op) → Fate op
  | .install _ _ => ()
  | .detach _ => ()
  | .remove _ => ()
  | .emit _ _ => ()
  | .nextTick => ()
  | .readBot _ => ()
  | .raiseTrail _ _ => ()
  | .countBar _ => ()
  | .setLong _ _ _ _ => ()
  | .setFlat _ _ => ()
  | .getRecent _ _ _ => .ok []
  | .fetchBookTicker _ => none
  | .decide _ => .ok ⟨.hold, 0⟩
  | .createTrade _ => .answered
  | .findOpenTrade _ _ => .answered
  | .closeTrade _ _ _ => .answered
  | .updatePortfolio _ _ => .ok ()
  | .findPortfolio _ => .ok none
  | .appendTradingLog _ _ => .ok ()

/-- The bot is started, and a bar of its symbol closes. -/
theorem not_reacts :
    ¬ ∀ (paper : PaperConfig) (requests : List Request) (turns : List (Turn market)),
      ∀ step ∈ (advancedSystem paper requests).steps turns, Sound step := by
  intro claimed
  have sound := claimed .default [.start bitcoinBot 1000, .bar "BTCUSDT" .oneMinute]
    [⟨0, silent⟩, ⟨1, silent⟩]
  exact absurd sound (by decide +kernel)

end GdslExchange.Advanced
