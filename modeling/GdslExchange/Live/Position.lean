/-
This file proves when the memory of the live bots agrees with the exchange: in every
run in which fills are heard and entered, no two orders and no two overwritten sizes
overlap, a SELL sells all that is held, no bot is removed under a call that holds it,
and no caution of the advisor reduces an order size.

The bot does none of this by itself: its interval fires whether or not the last tick
has ended, and what a SELL leaves over is forgotten.
-/

import GdslExchange.Live.Books
import GdslExchange.Live.Course

namespace GdslExchange.Live

open Async

/-! ### Agreement -/

def flight (moment : Moment venue) (caller : ℕ) : Option Fill := (lane.phase moment caller).flight

/-- The bot whose order size a caller has to restore, and the size it had. -/
def overwrite (moment : Moment venue) (caller : ℕ) : Option (ℕ × ℚ) :=
  (lane.phase moment caller).sizing.map fun sizing => (sizing.bot, sizing.saved)

/-- A bot with no order in flight holds what it has bought and not sold, and one with no entry
in progress has the order size it was started with. -/
structure InSync (moment : Moment venue) : Prop where
  held : ∀ bot found, moment.state.bots[bot]? = some found →
    (∀ caller fill, flight moment caller = some fill → fill.bot ≠ bot) →
    found.baseQtyHeld = moment.state.net bot
  size : ∀ bot found, moment.state.bots[bot]? = some found →
    (∀ caller saved, overwrite moment caller = some saved → saved.1 ≠ bot) →
    found.orderSizeUsdt = found.settings.orderSizeUsdt

/-- Orders are placed by the bot that runs, and base is bought by a bot that has none. -/
structure OrderSound (step : Step venue) : Prop where
  placed : ∀ bot order, step.op = .placeOrder bot order → step.before.state.running = some bot
  single : ∀ bot, step.before.state.net bot < step.after.state.net bot →
    step.before.state.net bot ≤ 0

/-! ### Orderly steps -/

def Others (before : Moment venue) (caller : ℕ) (free : Phase → Prop) : Prop :=
  ∀ event ∈ before.log, event.caller ≠ caller → free (lane.phase before event.caller)

/-- A failure now would leave a fill that is never entered or a size that is never restored. -/
def Phase.exposed (phase : Phase) : Bool :=
  phase.flight.isSome || phase.sizing.any fun sizing => !sizing.isGuarded

/-- What memory knows of a filled order: a BUY finds no position, a SELL sells all that is held. -/
def Order.matches (order : Order) (qty : ℚ) (found : LiveBot) : Bool :=
  match order.side with
  | .buy => found.position = .none
  | .sell => qty = found.baseQtyHeld

/-- What an operation finds. -/
def Suits (before : Moment venue) (caller : ℕ) : (op : Op) → Fate op → Prop
  | .installBot _ _, _ => before.state.running = none
  | .removeBot, _ => Others before caller fun phase => phase.holds = none
  | .emergencyRemove _, _ => Others before caller fun phase => phase.holds = none
  | .beginProbe _, _ => Others before caller fun phase => phase.sizing = none
  | .overwriteSize _ _, _ => Others before caller fun phase => phase.sizing = none
  | .reduceSize _ _, _ => False
  | .placeOrder bot order, .filled qty _ =>
    (order.side = .buy ∧ order.filledBy qty ≤ 0) ∨
      (Others before caller (fun phase => phase.flight = none) ∧
        (before.state.bots[bot]?).any (order.matches (order.filledBy qty)) = true)
  | _, _ => True

/-- Fills are heard and entered, no two orders and no two overwritten sizes overlap, a SELL sells
all that is held, no bot is removed under a call that holds it or replaced, and no order size is
reduced. -/
structure Orderly (step : Step venue) : Prop where
  heard : (lane.phase step.before step.caller).exposed = true → step.reply.isOk = true
  suits : Suits step.before step.caller step.op step.fate

instance (before : Moment venue) (caller : ℕ) (free : Phase → Prop) [DecidablePred free] :
    Decidable (Others before caller free) := inferInstanceAs (Decidable (∀ event ∈ _, _ → _))

instance (before : Moment venue) (caller : ℕ) (op : Op) (fate : Fate op) :
    Decidable (Suits before caller op fate) :=
  match op, fate with
  | .placeOrder _ _, .rejected _ => inferInstanceAs (Decidable True)
  | .placeOrder _ _, .filled _ _ => inferInstanceAs (Decidable (_ ∨ _))
  | .installBot _ _, _ => inferInstanceAs (Decidable (_ = _))
  | .removeBot, _ =>
    inferInstanceAs (Decidable (Others before caller fun phase => phase.holds = none))
  | .emergencyRemove _, _ =>
    inferInstanceAs (Decidable (Others before caller fun phase => phase.holds = none))
  | .beginProbe _, _ =>
    inferInstanceAs (Decidable (Others before caller fun phase => phase.sizing = none))
  | .overwriteSize _ _, _ =>
    inferInstanceAs (Decidable (Others before caller fun phase => phase.sizing = none))
  | .reduceSize _ _, _ => inferInstanceAs (Decidable False)
  | .isRunning, _ | .fire _, _ | .settle _, _ | .clearTimer, _ | .readBot _, _ | .openTick _, _
  | .claimFirstTick _, _ | .restoreSize _ _, _ | .observeEquity _ _, _ | .setLong _ _ _, _
  | .stampExecution _, _ | .setFlat _, _ | .fetchPrice _, _ | .findPortfolio, _
  | .updatePortfolio _, _ | .appendTradingLog _ _, _ | .getCexExitSettings, _
  | .fetchBinanceUsdtBalance, _ | .evaluateTradeIntent _ _ _, _ | .computeAISignal _, _
  | .findClosedPnls, _ | .findActiveSession, _ | .countOrdersSince _, _ | .persistStop _, _
  | .currentTime, _ => inferInstanceAs (Decidable True)

instance (step : Step venue) : Decidable (Orderly step) :=
  decidable_of_iff (_ ∧ _) ⟨fun both => ⟨both.1, both.2⟩, fun orderly => ⟨orderly.1, orderly.2⟩⟩

variable {before : Moment venue} {caller : ℕ}

theorem others_apply {free : Phase → Prop} (others : Others before caller free) (idle : free .idle)
    (other : ℕ) (different : other ≠ caller) :
    free (lane.phase before other) := Protocol.Others.apply others idle different

/-! ### Runs go through the phases -/

theorem permits_of_mem_steps (requests : List Request) (turns : List (Turn venue)) :
    ∀ step ∈ (liveSystem requests).steps turns,
      lane.permits (lane.phase step.before step.caller) step.op :=
  Protocol.permitted (System.each_call fun _ request => request_follows request) turns

variable {Answer : Type} {desk : Desk} {bot : ℕ}

/-! ### What operations leave alone -/

theorem withBot_keeps {kept : Desk → Prop} {next : LiveBot → Desk} {answer : LiveBot → Answer}
    (now : kept desk) (then_ : ∀ found, kept (next found)) :
    kept (withBot desk bot next answer).1 := by
  unfold withBot
  split
  · exact then_ _
  · exact now

variable {View : Type}

theorem onBot_map {view : LiveBot → View} {change : LiveBot → LiveBot}
    (same : ∀ found, view (change found) = view found) (desk : Desk) (bot : ℕ) :
    (desk.onBot bot change).bots.map view = desk.bots.map view := by
  refine List.ext_getElem? fun index => ?_
  simp only [Desk.onBot, List.getElem?_map, List.getElem?_modify]
  split
  · cases desk.bots[index]? with
    | none => rfl
    | some found => exact congrArg some (same found)
  · simp

variable {found : LiveBot}

theorem onBot_set (view : LiveBot → View) (change : LiveBot → LiveBot)
    (isBot : desk.bots[bot]? = some found) :
    (desk.onBot bot change).bots.map view = (desk.bots.map view).set bot (view (change found)) := by
  refine List.ext_getElem? fun index => ?_
  simp only [Desk.onBot, List.getElem?_map, List.getElem?_modify, List.getElem?_set]
  split
  · next same =>
    rw [← same, isBot]
    simp [(List.getElem?_eq_some_iff.mp isBot).1]
  · simp

theorem withBot_of_isOk {next : LiveBot → Desk} {answer : LiveBot → Answer}
    (isOk : (withBot desk bot next answer).2.isOk = true) :
    ∃ found, desk.bots[bot]? = some found := by
  unfold withBot at isOk
  split at isOk
  · exact ⟨_, ‹_›⟩
  · cases isOk

theorem withBot_of_some (isBot : desk.bots[bot]? = some found) (next : LiveBot → Desk)
    (answer : LiveBot → Answer) :
    withBot desk bot next answer = (next found, .ok (answer found)) := by
  unfold withBot
  rw [isBot]

theorem withBot_of_none (isBot : desk.bots[bot]? = none) (next : LiveBot → Desk)
    (answer : LiveBot → Answer) :
    withBot desk bot next answer = (desk, .error "no such bot") := by
  unfold withBot
  rw [isBot]

/-- What an operation makes of the bot it is about. -/
def touch : (op : Op) → Fate op → LiveBot → LiveBot
  | .clearTimer, _, found => { found with ticking := false }
  | .emergencyRemove _, _, found => { found with ticking := false }
  | .beginProbe _, _, found => found.probed
  | .overwriteSize _ size, _, found => { found with orderSizeUsdt := size }
  | .restoreSize _ size, _, found => { found with orderSizeUsdt := size }
  | .reduceSize _ size, _, found => { found with orderSizeUsdt := size }
  | .observeEquity _ currentEquity, _, found => found.observed currentEquity
  | .setLong _ qty price, _, found =>
    { found with position := .long, baseQtyHeld := qty, entryPrice := some price }
  | .stampExecution _, now, found => { found with lastExecutionAt := some now }
  | .setFlat _, now, found =>
    { found with
      position := .none, baseQtyHeld := 0, entryPrice := none, lastExecutionAt := some now }
  | _, _, found => found

def SameView {View : Type} (view : LiveBot → View) (desk reached : Desk) : Prop :=
  reached.bots.map view = desk.bots.map view

variable {op : Op}

theorem perform_view (view : LiveBot → View) {fate : Fate op}
    (old : ∀ settings peak, op ≠ .installBot settings peak)
    (same : ∀ found, view (touch op fate found) = view found) (desk : Desk) :
    SameView view desk (perform op fate desk).1 := by
  have changed : ∀ bot, SameView view desk (desk.onBot bot (touch op fate)) := onBot_map same desk
  cases op with
  | installBot settings peak => exact (old settings peak rfl).elim
  | clearTimer =>
    show SameView view desk (clearRunning desk).1
    unfold clearRunning
    split
    · exact rfl
    · exact withBot_keeps rfl fun _ => changed _
  | placeOrder bot order => cases fate <;> exact rfl
  | _ =>
    first
      | exact rfl
      | exact withBot_keeps rfl fun _ => rfl
      | exact withBot_keeps rfl fun _ => changed _

def SameFills (desk reached : Desk) : Prop := reached.fills = desk.fills

theorem perform_fills {op : Op} {fate : Fate op} (noOrder : ∀ bot order, op ≠ .placeOrder bot order)
    (desk : Desk) : SameFills desk (perform op fate desk).1 := by
  cases op with
  | placeOrder bot order => exact (noOrder bot order rfl).elim
  | clearTimer =>
    show SameFills desk (clearRunning desk).1
    unfold clearRunning
    split
    · exact rfl
    · exact withBot_keeps rfl fun _ => rfl
  | _ =>
    first
      | exact rfl
      | exact withBot_keeps rfl fun _ => rfl

/-! ### Phases along steps -/

theorem flight_after (step : Step venue) :
    flight step.after = Function.update (flight step.before) step.caller
      ((lane.phase step.before step.caller).next step.op step.reply).flight := by
  show Phase.flight ∘ lane.phase step.after = _
  rw [Protocol.phases_after, Function.comp_update]
  rfl

/-- The bot whose order size a phase has to restore, and the size it had. -/
def Phase.overwrite (phase : Phase) : Option (ℕ × ℚ) :=
  phase.sizing.map fun sizing => (sizing.bot, sizing.saved)

theorem overwrite_after (step : Step venue) :
    overwrite step.after = Function.update (overwrite step.before) step.caller
      ((lane.phase step.before step.caller).next step.op step.reply).overwrite := by
  show Phase.overwrite ∘ lane.phase step.after = _
  rw [Protocol.phases_after, Function.comp_update]
  rfl

theorem exposed_of_flight {moment : Moment venue} {fill : Fill}
    (own : flight moment caller = some fill) : (lane.phase moment caller).exposed = true := by
  unfold Phase.exposed
  rw [show (lane.phase moment caller).flight = some fill from own]
  rfl

theorem not_exposed_of_error {phase : Phase} {reply : Except String Answer}
    (heard : phase.exposed = true → reply.isOk = true) {failure : String}
    (isError : reply = .error failure) :
    phase.flight = none ∧ ∀ sizing ∈ phase.sizing, sizing.isGuarded = true := by
  have safe : phase.exposed = false := by
    rw [Bool.eq_false_iff]
    intro exposed
    rw [isError] at heard
    cases heard exposed
  unfold Phase.exposed at safe
  rw [Bool.or_eq_false_iff, Option.isSome_eq_false_iff, Option.isNone_iff_eq_none] at safe
  refine ⟨safe.1, fun sizing member => ?_⟩
  have guarded := safe.2
  rw [Option.mem_def.mp member] at guarded
  simpa using guarded

/-! ### Positions and fills -/

/-- The position of each bot and what it holds. -/
def Desk.entries (desk : Desk) : List (Position × ℚ) :=
  desk.bots.map fun found => (found.position, found.baseQtyHeld)

/-- Operations that change no position and fill no order. -/
def Bookless : Op → Prop
  | .installBot _ _ => False
  | .placeOrder _ _ => False
  | .setLong _ _ _ => False
  | .setFlat _ => False
  | _ => True

theorem entries_bookless (bookless : Bookless op) (fate : Fate op) (desk : Desk) :
    (perform op fate desk).1.entries = desk.entries := by
  refine perform_view _ (fun settings peak installs => ?_) (fun found => ?_) desk
  · rw [installs] at bookless
    exact bookless
  · cases op with
    | beginProbe bot =>
      show (found.probed.position, found.probed.baseQtyHeld) = _
      unfold LiveBot.probed
      split <;> rfl
    | _ => first | exact bookless.elim | rfl

theorem net_bookless (bookless : Bookless op) (fate : Fate op) (desk : Desk) :
    (perform op fate desk).1.net = desk.net := by
  have same : SameFills desk (perform op fate desk).1 :=
    perform_fills (fun bot order places => by rw [places] at bookless; exact bookless) desk
  unfold Desk.net
  rw [same]

theorem flight_bookless (bookless : Bookless op) {phase : Phase} (permitted : lane.permits phase op)
    {reply : Except String (Result op)} (heard : phase.exposed = true → reply.isOk = true) :
    (phase.next op reply).flight = phase.flight := by
  cases reply with
  | error failure =>
    have grounded : phase.flight = none := (not_exposed_of_error heard rfl).1
    cases op <;> first | rfl | exact grounded.symm
  | ok result =>
    cases op with
    | settle bot => exact permitted.flight.symm
    | _ => first | exact bookless.elim | rfl | (cases result <;> rfl)

theorem net_append (desk : Desk) (fill : Fill) :
    ({ desk with fills := desk.fills ++ [fill] } : Desk).net =
      Function.update desk.net fill.bot (desk.net fill.bot + fill.signed) := by
  funext bot
  unfold Desk.net
  rw [List.filter_append, List.map_append, List.sum_append]
  by_cases same : bot = fill.bot
  · rw [same, Function.update_self]
    simp
  · rw [Function.update_of_ne same]
    simp [Ne.symm same]

/-- The invariant of positions and fills. -/
def BooksKept (moment : Moment venue) : Prop :=
  Books moment.state.entries moment.state.net (flight moment)

theorem entries_of_bot (isBot : desk.bots[bot]? = some found) :
    desk.entries[bot]? = some (found.position, found.baseQtyHeld) := by
  unfold Desk.entries
  rw [List.getElem?_map, isBot]
  rfl

theorem flight_free (own : (lane.phase before caller).flight = none)
    (others : Others before caller fun phase => phase.flight = none) (other : ℕ) :
    flight before other = none := by
  by_cases same : other = caller
  · rw [same]
    exact own
  · exact others_apply others rfl other same

variable {order : Order}

theorem net_filled (books : BooksKept before) {qty : ℚ} (free : ∀ other, flight before other = none)
    (found : (before.state.bots[bot]?).any (order.matches qty) = true) :
    before.state.net bot + Fill.signed ⟨bot, order.side, qty⟩ =
      Fill.leaves ⟨bot, order.side, qty⟩ := by
  obtain ⟨entry, isBot, isMatch⟩ := (Option.any_eq_true _ _).mp found
  refine @Books.leaves _ _ _ ⟨bot, order.side, qty⟩ books free _ (entries_of_bot isBot) ?_
  unfold Order.matches at isMatch
  cases side : order.side with
  | buy => simpa [side] using isMatch
  | sell => simpa [side] using isMatch

theorem booksKept_filled (books : BooksKept before) {qty : ℚ}
    (free : ∀ other, flight before other = none)
    (found : (before.state.bots[bot]?).any (order.matches qty) = true) :
    Books before.state.entries
      (Function.update before.state.net bot
        (before.state.net bot + Fill.signed ⟨bot, order.side, qty⟩))
      (Function.update (flight before) caller (some ⟨bot, order.side, qty⟩)) := by
  obtain ⟨entry, isBot, -⟩ := (Option.any_eq_true _ _).mp found
  rw [net_filled books free found]
  exact books.fly free ⟨bot, order.side, qty⟩
    (List.getElem?_eq_some_iff.mp (entries_of_bot isBot)).1

/-- What a filled order does to positions and fills. -/
theorem booksKept_placed {fate : OrderFate}
    (permitted : lane.permits (lane.phase before caller) (.placeOrder bot order))
    (suits : Suits before caller (.placeOrder bot order) fate) (books : BooksKept before) :
    BooksKept (Step.mk before caller (.placeOrder bot order) fate).after := by
  have own : (lane.phase before caller).flight = none := permitted.2
  unfold BooksKept
  rw [flight_after]
  cases fate with
  | rejected message =>
    have grounded : ((lane.phase before caller).next (.placeOrder bot order)
        (.error message)).flight = flight before caller := own.symm
    show Books before.state.entries before.state.net (Function.update (flight before) caller
      ((lane.phase before caller).next (.placeOrder bot order) (.error message)).flight)
    rw [grounded, Function.update_eq_self]
    exact books
  | filled qty nonneg =>
    set filled : ℚ := order.filledBy qty with isFilled
    show Books before.state.entries
      (({ before.state with fills := before.state.fills ++ [⟨bot, order.side, filled⟩] } : Desk).net)
      (Function.update (flight before) caller
        ((lane.phase before caller).filled bot order.side filled).flight)
    rw [net_append]
    by_cases nothing : order.side = .buy ∧ filled ≤ 0
    · have isZero : filled = 0 := by
        refine le_antisymm nothing.2 ?_
        rw [isFilled, Order.filledBy, nothing.1]
        exact nonneg
      have unsigned : Fill.signed ⟨bot, order.side, filled⟩ = 0 := by
        rw [Fill.signed, nothing.1]
        exact isZero
      rw [Phase.filled, if_pos nothing, unsigned, add_zero, Function.update_eq_self]
      show Books _ _ (Function.update (flight before) caller (flight before caller))
      rw [Function.update_eq_self]
      exact books
    · rw [Phase.filled, if_neg nothing]
      obtain ⟨others, found⟩ := suits.resolve_left nothing
      exact booksKept_filled books (flight_free own others) found

theorem booksKept_entered {step : Step venue} {fill : Fill} {entry : Position × ℚ}
    (books : BooksKept step.before) (own : flight step.before step.caller = some fill)
    (isNet : entry.2 = step.before.state.net fill.bot) (isFlat : entry.1 = .none → entry.2 = 0)
    (entries : step.after.state.entries = step.before.state.entries.set fill.bot entry)
    (net : step.after.state.net = step.before.state.net)
    (landed : ((lane.phase step.before step.caller).next step.op step.reply).flight = none) :
    BooksKept step.after := by
  unfold BooksKept
  rw [flight_after, landed, entries, net]
  exact books.enter own isNet isFlat

/-- Orderly steps keep positions and fills together. -/
theorem booksKept_step (step : Step venue)
    (permitted : lane.permits (lane.phase step.before step.caller) step.op)
    (orderly : Orderly step) (books : BooksKept step.before) : BooksKept step.after := by
  by_cases bookless : Bookless step.op
  · unfold BooksKept
    rw [flight_after, flight_bookless bookless permitted orderly.heard]
    show Books (perform step.op step.fate step.before.state).1.entries
      (perform step.op step.fate step.before.state).1.net
      (Function.update (flight step.before) step.caller (flight step.before step.caller))
    rw [entries_bookless bookless, net_bookless bookless, Function.update_eq_self]
    exact books
  · obtain ⟨before, caller, op, fate⟩ := step
    cases op with
    | placeOrder bot order => exact booksKept_placed permitted orderly.suits books
    | installBot settings peak =>
      unfold BooksKept
      rw [flight_after]
      show Books (Desk.entries _) before.state.net
        (Function.update (flight before) caller (flight before caller))
      rw [Function.update_eq_self]
      show Books ((before.state.bots ++ [newBot settings peak]).map _) _ _
      rw [List.map_append]
      exact books.install
    | setLong bot qty price =>
      have own : flight before caller = some ⟨bot, .buy, qty⟩ := permitted
      obtain ⟨found, isBot⟩ := withBot_of_isOk (orderly.heard (exposed_of_flight own))
      have performed : perform (.setLong bot qty price) fate before.state =
          (before.state.onBot bot fun found =>
            { found with position := .long, baseQtyHeld := qty, entryPrice := some price },
            .ok ()) := withBot_of_some isBot _ _
      refine @booksKept_entered _ ⟨bot, .buy, qty⟩ (.long, qty) books own
        (books.bought caller bot qty own).symm nofun ?_ ?_ ?_
      · show (perform (.setLong bot qty price) fate before.state).1.entries = _
        rw [performed]
        exact onBot_set _ _ isBot
      · show (perform (.setLong bot qty price) fate before.state).1.net = _
        rw [performed]
        rfl
      · show (Phase.next _ _ (perform (.setLong bot qty price) fate before.state).2).flight = none
        rw [performed]
        rfl
    | setFlat bot =>
      obtain ⟨qty, isFlight⟩ := permitted
      have own : flight before caller = some ⟨bot, .sell, qty⟩ := isFlight
      obtain ⟨found, isBot⟩ := withBot_of_isOk (orderly.heard (exposed_of_flight own))
      have performed : perform (.setFlat bot) fate before.state =
          (before.state.onBot bot fun found =>
            { found with
              position := .none, baseQtyHeld := 0, entryPrice := none, lastExecutionAt := some fate },
            .ok ()) := withBot_of_some isBot _ _
      refine @booksKept_entered _ ⟨bot, .sell, qty⟩ (.none, 0) books own
        (books.sold caller bot qty own).symm (fun _ => rfl) ?_ ?_ ?_
      · show (perform (.setFlat bot) fate before.state).1.entries = _
        rw [performed]
        exact onBot_set _ _ isBot
      · show (perform (.setFlat bot) fate before.state).1.net = _
        rw [performed]
        rfl
      · show (Phase.next _ _ (perform (.setFlat bot) fate before.state).2).flight = none
        rw [performed]
        rfl
    | _ => exact (bookless trivial).elim

end GdslExchange.Live
