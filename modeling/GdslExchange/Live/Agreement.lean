/-
This file proves what orderly steps keep of the order sizes and of the bot that runs,
and from that, with the positions and fills, that the memory of the live bots agrees
with the exchange in every orderly run. It ends with two ticks that overlap.
-/

import GdslExchange.Live.Position

namespace GdslExchange.Live

open Async

/-! ### Order sizes -/

def Desk.sizes (desk : Desk) : List (BotSettings × ℚ) :=
  desk.bots.map fun found => (found.settings, found.orderSizeUsdt)

/-- Operations that change no order size. -/
def Sizeless : Op → Prop
  | .installBot _ _ => False
  | .beginProbe _ => False
  | .overwriteSize _ _ => False
  | .restoreSize _ _ => False
  | .reduceSize _ _ => False
  | _ => True

variable {op : Op}

theorem sizes_sizeless (sizeless : Sizeless op) (fate : Fate op) (desk : Desk) :
    (perform op fate desk).1.sizes = desk.sizes := by
  refine perform_view _ (fun settings peak installs => ?_) (fun found => ?_) desk
  · rw [installs] at sizeless
    exact sizeless
  · cases op <;> first | exact sizeless.elim | rfl

variable {phase : Phase}

/-- A failure in a phase that is not exposed leaves what is to be restored. -/
theorem Phase.overwrite_dropped (guarded : ∀ sizing ∈ phase.sizing, sizing.isGuarded = true) :
    phase.dropped.overwrite = phase.overwrite := by
  obtain ⟨holds, stopping, flight, sizing⟩ := phase
  cases sizing with
  | none => rfl
  | some sizing => simp [dropped, Phase.overwrite, guarded sizing rfl]

theorem Phase.overwrite_guarded (phase : Phase) : phase.guarded.overwrite = phase.overwrite := by
  obtain ⟨holds, stopping, flight, sizing⟩ := phase
  cases sizing <;> rfl

theorem Phase.overwrite_filled (phase : Phase) (bot : ℕ) (side : Side) (qty : ℚ) :
    (phase.filled bot side qty).overwrite = phase.overwrite := by
  unfold Phase.filled
  split <;> rfl

theorem overwrite_sizeless (sizeless : Sizeless op) (permitted : lane.permits phase op)
    {reply : Except String (Result op)} (heard : phase.exposed = true → reply.isOk = true) :
    (phase.next op reply).overwrite = phase.overwrite := by
  have settled : phase.Rested → Phase.idle.overwrite = phase.overwrite := by
    intro rested
    unfold Phase.overwrite
    rw [rested.sizing]
    rfl
  cases reply with
  | error failure =>
    have kept := Phase.overwrite_dropped (not_exposed_of_error heard rfl).2
    cases op with
    | settle bot => exact settled permitted
    | _ => first | exact sizeless.elim | exact kept
  | ok result =>
    cases op with
    | settle bot => exact settled permitted
    | appendTradingLog kind message => exact phase.overwrite_guarded
    | placeOrder bot order => exact phase.overwrite_filled bot order.side result
    | _ => first | exact sizeless.elim | rfl | (cases result <;> rfl)

/-- The invariant of order sizes. -/
def SizesKept (moment : Moment venue) : Prop := Sizes moment.state.sizes (overwrite moment)

theorem overwrite_free {before : Moment venue} {caller : ℕ}
    (own : (lane.phase before caller).sizing = none)
    (others : Others before caller fun phase => phase.sizing = none) (other : ℕ) :
    overwrite before other = none := by
  have isNone : (lane.phase before other).sizing = none := by
    by_cases same : other = caller
    · rw [same]
      exact own
    · exact others_apply others rfl other same
  unfold overwrite
  rw [isNone]
  rfl

theorem sizesKept_overwritten {step : Step venue} {bot : ℕ} {size : BotSettings × ℚ} {new : ℚ}
    (isSizes : SizesKept step.before) (free : ∀ other, overwrite step.before other = none)
    (isSize : step.before.state.sizes[bot]? = some size)
    (sizes : step.after.state.sizes = step.before.state.sizes.set bot (size.1, new))
    (sized : ((lane.phase step.before step.caller).next step.op step.reply).overwrite =
      some (bot, size.2)) : SizesKept step.after := by
  unfold SizesKept
  rw [overwrite_after, sized, sizes]
  exact isSizes.replace free isSize new

theorem sizesKept_same {step : Step venue} (isSizes : SizesKept step.before)
    (sizes : step.after.state.sizes = step.before.state.sizes)
    (same : ((lane.phase step.before step.caller).next step.op step.reply).overwrite =
      (lane.phase step.before step.caller).overwrite) : SizesKept step.after := by
  unfold SizesKept
  rw [overwrite_after, same, sizes]
  show Sizes _ (Function.update (overwrite step.before) step.caller
    (overwrite step.before step.caller))
  rw [Function.update_eq_self]
  exact isSizes

theorem sizesKept_missed {step : Step venue} (isSizes : SizesKept step.before)
    (own : (lane.phase step.before step.caller).sizing = none)
    (missed : venue.perform step.op step.fate step.before.state =
      (step.before.state, .error "no such bot"))
    (dropped : (lane.phase step.before step.caller).next step.op (.error "no such bot") =
      (lane.phase step.before step.caller).dropped) : SizesKept step.after := by
  have told : step.reply = .error "no such bot" := congrArg Prod.snd missed
  refine sizesKept_same isSizes (congrArg (fun answered => answered.1.sizes) missed) ?_
  rw [told, dropped]
  refine Phase.overwrite_dropped fun sizing member => ?_
  rw [own] at member
  cases member

theorem set_of_found {Item : Type} {items : List Item} {index : ℕ} {item : Item}
    (isItem : items[index]? = some item) : items.set index item = items := by
  obtain ⟨inside, rfl⟩ := List.getElem?_eq_some_iff.mp isItem
  exact List.set_getElem_self inside

theorem sizes_of_bot {desk : Desk} {bot : ℕ} {found : LiveBot}
    (isBot : desk.bots[bot]? = some found) :
    desk.sizes[bot]? = some (found.settings, found.orderSizeUsdt) := by
  unfold Desk.sizes
  rw [List.getElem?_map, isBot]
  rfl

section Steps

variable {before : Moment venue} {caller bot : ℕ}

theorem sizesKept_installBot {settings : BotSettings} {peak : ℚ}
    (fate : venue.Fate (.installBot settings peak))
    (isSizes : SizesKept before) :
    SizesKept (Step.mk before caller (.installBot settings peak) fate).after := by
  unfold SizesKept
  rw [overwrite_after]
  show Sizes ((before.state.bots ++ [newBot settings peak]).map _)
    (Function.update (overwrite before) caller (overwrite before caller))
  rw [Function.update_eq_self, List.map_append]
  exact isSizes.install settings

/-- A probe overwrites the order size of its bot, but for one that is too small. -/
theorem sizesKept_beginProbe (fate : venue.Fate (.beginProbe bot))
    (own : (lane.phase before caller).sizing = none)
    (others : Others before caller fun phase => phase.sizing = none)
    (isSizes : SizesKept before) :
    SizesKept (Step.mk before caller (.beginProbe bot) fate).after := by
  cases isBot : before.state.bots[bot]? with
  | none => exact sizesKept_missed isSizes own (withBot_of_none isBot _ _) rfl
  | some found =>
    have performed : perform (.beginProbe bot) fate before.state =
        (before.state.onBot bot LiveBot.probed, .ok (if probeQuote found.orderSizeUsdt < 1
          then none else some found.orderSizeUsdt)) := withBot_of_some isBot _ _
    by_cases small : probeQuote found.orderSizeUsdt < 1
    · refine sizesKept_same isSizes ?_ ?_
      · show (perform (.beginProbe bot) fate before.state).1.sizes = _
        rw [performed]
        refine (onBot_set _ _ isBot).trans ?_
        rw [LiveBot.probed, if_pos small]
        exact set_of_found (sizes_of_bot isBot)
      · show (Phase.next _ _ (perform (.beginProbe bot) fate before.state).2).overwrite = _
        rw [performed, if_pos small]
        rfl
    · refine @sizesKept_overwritten _ bot _ (probeQuote found.orderSizeUsdt) isSizes
        (overwrite_free own others) (sizes_of_bot isBot) ?_ ?_
      · show (perform (.beginProbe bot) fate before.state).1.sizes = _
        rw [performed]
        refine (onBot_set _ _ isBot).trans ?_
        rw [LiveBot.probed, if_neg small]
        rfl
      · show (Phase.next _ _ (perform (.beginProbe bot) fate before.state).2).overwrite = _
        rw [performed, if_neg small]
        rfl

theorem sizesKept_overwriteSize {size : ℚ} (fate : venue.Fate (.overwriteSize bot size))
    (own : (lane.phase before caller).sizing = none)
    (others : Others before caller fun phase => phase.sizing = none)
    (isSizes : SizesKept before) :
    SizesKept (Step.mk before caller (.overwriteSize bot size) fate).after := by
  cases isBot : before.state.bots[bot]? with
  | none => exact sizesKept_missed isSizes own (withBot_of_none isBot _ _) rfl
  | some found =>
    have performed : perform (.overwriteSize bot size) fate before.state =
        (before.state.onBot bot fun found => { found with orderSizeUsdt := size },
          .ok found.orderSizeUsdt) := withBot_of_some isBot _ _
    refine @sizesKept_overwritten _ bot _ size isSizes
      (overwrite_free own others) (sizes_of_bot isBot) ?_ ?_
    · show (perform (.overwriteSize bot size) fate before.state).1.sizes = _
      rw [performed]
      exact onBot_set _ _ isBot
    · show (Phase.next _ _ (perform (.overwriteSize bot size) fate before.state).2).overwrite = _
      rw [performed]
      rfl

/-- A restored order size is the one that was overwritten. -/
theorem sizesKept_restoreSize {size : ℚ} (fate : venue.Fate (.restoreSize bot size))
    (permitted : lane.permits (lane.phase before caller) (.restoreSize bot size))
    (isSizes : SizesKept before) :
    SizesKept (Step.mk before caller (.restoreSize bot size) fate).after := by
  have own : overwrite before caller = some (bot, size) := by
    unfold overwrite
    rw [show (lane.phase before caller).sizing = _ from permitted]
    rfl
  obtain ⟨configured, isConfigured⟩ := isSizes.isSome own
  have isMapped := isConfigured
  unfold Desk.sizes at isMapped
  rw [List.getElem?_map, Option.map_eq_some_iff] at isMapped
  obtain ⟨found, isBot, -⟩ := isMapped
  have performed : perform (.restoreSize bot size) fate before.state =
      (before.state.onBot bot fun found => { found with orderSizeUsdt := size }, .ok ()) :=
    withBot_of_some isBot _ _
  unfold SizesKept
  rw [overwrite_after]
  show Sizes (perform (.restoreSize bot size) fate before.state).1.sizes
    (Function.update (overwrite before) caller none)
  rw [performed]
  have sizes : (before.state.onBot bot fun found => { found with orderSizeUsdt := size }).sizes =
      before.state.sizes.set bot (found.settings, size) := onBot_set _ _ isBot
  rw [sizes]
  exact isSizes.restore own (sizes_of_bot isBot)

end Steps

theorem sizesKept_step (step : Step venue)
    (permitted : lane.permits (lane.phase step.before step.caller) step.op)
    (orderly : Orderly step) (isSizes : SizesKept step.before) : SizesKept step.after := by
  by_cases sizeless : Sizeless step.op
  · exact sizesKept_same isSizes (sizes_sizeless sizeless step.fate step.before.state)
      (overwrite_sizeless sizeless permitted orderly.heard)
  · obtain ⟨before, caller, op, fate⟩ := step
    cases op with
    | installBot settings peak => exact sizesKept_installBot fate isSizes
    | beginProbe bot => exact sizesKept_beginProbe fate permitted.2 orderly.suits isSizes
    | overwriteSize bot size =>
      exact sizesKept_overwriteSize fate permitted.2 orderly.suits isSizes
    | restoreSize bot size => exact sizesKept_restoreSize fate permitted isSizes
    | reduceSize bot size => exact orderly.suits.elim
    | _ => exact (sizeless trivial).elim

/-! ### The bot that runs -/

/-- Whether the interval of each bot is set. -/
def Desk.timers (desk : Desk) : List Bool := desk.bots.map LiveBot.ticking

/-- Operations that leave alone which bot runs, which intervals are set and who holds what. -/
def Steady : Op → Prop
  | .installBot _ _ => False
  | .fire _ => False
  | .settle _ => False
  | .clearTimer => False
  | .removeBot => False
  | .emergencyRemove _ => False
  | _ => True

def SameRunning (desk reached : Desk) : Prop := reached.running = desk.running

theorem running_steady (steady : Steady op) (fate : Fate op) (desk : Desk) :
    SameRunning desk (perform op fate desk).1 := by
  cases op with
  | placeOrder bot order => cases fate <;> exact rfl
  | _ =>
    first
      | exact steady.elim
      | exact rfl
      | exact withBot_keeps rfl fun _ => rfl

theorem timers_steady (steady : Steady op) (fate : Fate op) (desk : Desk) :
    (perform op fate desk).1.timers = desk.timers := by
  refine perform_view _ (fun settings peak installs => ?_) (fun found => ?_) desk
  · rw [installs] at steady
    exact steady
  · cases op with
    | beginProbe bot =>
      show found.probed.ticking = _
      unfold LiveBot.probed
      split <;> rfl
    | _ => first | exact steady.elim | rfl

/-- What a call holds, and whether it stops it. -/
def Phase.hold (phase : Phase) : Option ℕ × Bool := (phase.holds, phase.stopping)

theorem hold_steady (steady : Steady op) (phase : Phase) (reply : Except String (Result op)) :
    (phase.next op reply).hold = phase.hold := by
  cases reply with
  | error failure => cases op <;> first | exact steady.elim | rfl
  | ok result =>
    cases op with
    | placeOrder bot order =>
      show (phase.filled bot order.side result).hold = _
      unfold Phase.filled
      split <;> rfl
    | _ => first | exact steady.elim | rfl | (cases result <;> rfl)

/-- The invariant of the bot that runs. -/
def WatchKept (moment : Moment venue) : Prop :=
  Watch moment.state.running moment.state.timers (lane.phase moment)

theorem Watch.stay {running : Option ℕ} {timers : List Bool} {phases : ℕ → Phase} {caller : ℕ}
    (watch : Watch running timers phases) (same : phase.hold = (phases caller).hold) :
    Watch running timers (Function.update phases caller phase) := by
  obtain ⟨holds, stopping⟩ := Prod.mk.inj same
  refine watch.move (fun bot isHeld => ?_) fun bot isHeld isStopping => ?_
  · exact watch.held caller bot (holds ▸ isHeld)
  · exact watch.stopped caller bot (holds ▸ isHeld) (stopping ▸ isStopping)

theorem Watch.drop {running : Option ℕ} {timers : List Bool} {phases : ℕ → Phase} {caller : ℕ}
    (watch : Watch running timers phases) {phase : Phase} (empty : phase.holds = none) :
    Watch running timers (Function.update phases caller phase) := by
  refine watch.move (fun bot isHeld => ?_) fun bot isHeld => ?_
  all_goals
    rw [empty] at isHeld
    cases isHeld

theorem unheld_of_others {before : Moment venue} {caller : ℕ}
    (others : Others before caller fun phase => phase.holds = none) (empty : phase.holds = none)
    (other : ℕ) : (Function.update (lane.phase before) caller phase other).holds = none := by
  by_cases same : other = caller
  · rw [same, Function.update_self]
    exact empty
  · rw [Function.update_of_ne same]
    exact others_apply others rfl other same

theorem timers_cleared {desk : Desk} {bot : ℕ} {found : LiveBot}
    (isBot : desk.bots[bot]? = some found) :
    (desk.onBot bot fun found => { found with ticking := false }).timers =
      desk.timers.set bot false := onBot_set _ _ isBot

theorem not_ticking_of_cleared (timers : List Bool) (bot : ℕ) :
    (timers.set bot false)[bot]? ≠ some true := by
  intro isTicking
  rcases found_of_set isTicking with ⟨-, impossible⟩ | ⟨different, -⟩
  · cases impossible
  · exact different rfl

section Steps

variable {before : Moment venue} {caller bot : ℕ}

theorem watchKept_installBot {settings : BotSettings} {peak : ℚ}
    (fate : venue.Fate (.installBot settings peak))
    (isNone : before.state.running = none) (isIdle : lane.phase before caller = .idle)
    (watch : WatchKept before) :
    WatchKept (Step.mk before caller (.installBot settings peak) fate).after := by
  unfold WatchKept
  rw [Protocol.phases_after]
  have watched : Watch none before.state.timers (lane.phase before) := isNone ▸ watch
  have installed := watched.install
  have timers : (before.state.bots ++ [newBot settings peak]).map LiveBot.ticking =
      before.state.timers ++ [true] := List.map_append
  have running : some before.state.bots.length = some before.state.timers.length :=
    congrArg some (List.length_map LiveBot.ticking).symm
  show Watch (some before.state.bots.length)
    ((before.state.bots ++ [newBot settings peak]).map LiveBot.ticking)
    (Function.update (lane.phase before) caller
      { lane.phase before caller with holds := some before.state.bots.length })
  rw [timers, running]
  refine installed.move (fun bot isHeld => isHeld) fun bot _ isStopping => ?_
  rw [isIdle] at isStopping
  cases isStopping

theorem watchKept_fire (fate : venue.Fate (.fire bot)) (isIdle : lane.phase before caller = .idle)
    (watch : WatchKept before) :
    WatchKept (Step.mk before caller (.fire bot) fate).after := by
  unfold WatchKept
  rw [Protocol.phases_after]
  show Watch (perform (.fire bot) fate before.state).1.running
    (perform (.fire bot) fate before.state).1.timers (Function.update (lane.phase before) caller
      ((lane.phase before caller).next (.fire bot) (perform (.fire bot) fate before.state).2))
  cases isBot : before.state.bots[bot]? with
  | none =>
    rw [show perform (.fire bot) fate before.state = (before.state, .error "no such bot") from
      withBot_of_none isBot _ _]
    exact watch.stay rfl
  | some found =>
    rw [show perform (.fire bot) fate before.state = (before.state,
      .ok (if found.ticking then some found.settings else none)) from withBot_of_some isBot _ _]
    by_cases ticking : found.ticking = true
    · rw [if_pos ticking]
      have isTicking : before.state.timers[bot]? = some true := by
        unfold Desk.timers
        rw [List.getElem?_map, isBot]
        exact congrArg some ticking
      refine watch.move (fun other isHeld => ?_) fun other _ isStopping => ?_
      · exact Option.some.inj isHeld ▸ watch.ticking bot isTicking
      · rw [isIdle] at isStopping
        cases isStopping
    · rw [if_neg ticking]
      exact watch.stay rfl

theorem watchKept_clearTimer (fate : venue.Fate .clearTimer)
    (watch : WatchKept before) :
    WatchKept (Step.mk before caller .clearTimer fate).after := by
  unfold WatchKept
  rw [Protocol.phases_after]
  show Watch (clearRunning before.state).1.running (clearRunning before.state).1.timers
    (Function.update (lane.phase before) caller
      ((lane.phase before caller).next .clearTimer (clearRunning before.state).2))
  unfold clearRunning
  split
  · exact watch.stay rfl
  · next bot isRunning =>
    cases isBot : before.state.bots[bot]? with
    | none =>
      rw [withBot_of_none isBot]
      exact watch.stay rfl
    | some found =>
      rw [withBot_of_some isBot]
      show Watch before.state.running
        (before.state.onBot bot fun found => { found with ticking := false }).timers _
      rw [timers_cleared isBot]
      refine (watch.clear bot).move (fun other isHeld => ?_) fun other isHeld _ => ?_
      · exact isRunning.trans isHeld
      · exact Option.some.inj isHeld ▸ not_ticking_of_cleared _ bot

theorem watchKept_removeBot (fate : venue.Fate .removeBot)
    (isHeld : (lane.phase before caller).holds ≠ none)
    (isStopping : (lane.phase before caller).stopping = true)
    (others : Others before caller fun phase => phase.holds = none)
    (watch : WatchKept before) :
    WatchKept (Step.mk before caller .removeBot fate).after := by
  unfold WatchKept
  rw [Protocol.phases_after]
  obtain ⟨bot, holds⟩ := Option.ne_none_iff_exists'.mp isHeld
  have dropped : Watch before.state.running before.state.timers
      (Function.update (lane.phase before) caller (lane.phase before caller).left) :=
    watch.drop rfl
  exact dropped.remove (watch.held caller bot holds) (watch.stopped caller bot holds isStopping)
    (unheld_of_others others rfl)

theorem watchKept_emergencyRemove (fate : venue.Fate (.emergencyRemove bot))
    (holds : (lane.phase before caller).holds = some bot)
    (others : Others before caller fun phase => phase.holds = none)
    (watch : WatchKept before) :
    WatchKept (Step.mk before caller (.emergencyRemove bot) fate).after := by
  unfold WatchKept
  rw [Protocol.phases_after]
  have isRunning := watch.held caller bot holds
  show Watch (perform (.emergencyRemove bot) fate before.state).1.running
    (perform (.emergencyRemove bot) fate before.state).1.timers
    (Function.update (lane.phase before) caller ((lane.phase before caller).next
      (.emergencyRemove bot) (perform (.emergencyRemove bot) fate before.state).2))
  cases isBot : before.state.bots[bot]? with
  | none =>
    rw [show perform (.emergencyRemove bot) fate before.state =
      (before.state, .error "no such bot") from withBot_of_none isBot _ _]
    exact watch.stay rfl
  | some found =>
    rw [show perform (.emergencyRemove bot) fate before.state =
      ({ before.state.onBot bot fun found => { found with ticking := false } with
        running := none, firstTickDone := false }, .ok ()) from withBot_of_some isBot _ _]
    show Watch none (before.state.onBot bot fun found => { found with ticking := false }).timers
      (Function.update (lane.phase before) caller (lane.phase before caller).left)
    rw [timers_cleared isBot]
    have dropped : Watch before.state.running (before.state.timers.set bot false)
        (Function.update (lane.phase before) caller (lane.phase before caller).left) :=
      (watch.clear bot).drop rfl
    exact dropped.remove isRunning (not_ticking_of_cleared _ bot)
      (unheld_of_others others rfl)

end Steps

/-- Orderly steps keep which bot runs. -/
theorem watchKept_step (step : Step venue)
    (permitted : lane.permits (lane.phase step.before step.caller) step.op)
    (orderly : Orderly step) (watch : WatchKept step.before) : WatchKept step.after := by
  by_cases steady : Steady step.op
  · unfold WatchKept
    rw [Protocol.phases_after]
    show Watch (perform step.op step.fate step.before.state).1.running
      (perform step.op step.fate step.before.state).1.timers _
    have running : (perform step.op step.fate step.before.state).1.running =
        step.before.state.running := running_steady steady step.fate step.before.state
    rw [running, timers_steady steady]
    exact watch.stay (hold_steady steady _ step.reply)
  · obtain ⟨before, caller, op, fate⟩ := step
    cases op with
    | installBot settings peak => exact watchKept_installBot fate orderly.suits permitted watch
    | fire bot => exact watchKept_fire fate permitted watch
    | settle bot =>
      unfold WatchKept
      rw [Protocol.phases_after]
      exact watch.drop rfl
    | clearTimer => exact watchKept_clearTimer fate watch
    | removeBot =>
      exact watchKept_removeBot fate permitted.1 permitted.2 orderly.suits watch
    | emergencyRemove bot =>
      exact watchKept_emergencyRemove fate permitted orderly.suits watch
    | _ => exact (steady trivial).elim

/-! ### Orderly runs -/

/-- What orderly steps keep. -/
structure InOrder (moment : Moment venue) : Prop where
  books : BooksKept moment
  sizes : SizesKept moment
  watch : WatchKept moment

theorem inOrder_start (requests : List Request) : InOrder (liveSystem requests).moment where
  books := ⟨fun _ _ atFirst => (atFirst rfl).elim, nofun, nofun, nofun, nofun, fun _ _ => rfl⟩
  sizes := ⟨fun _ _ atFirst => (atFirst rfl).elim, nofun, nofun⟩
  watch := ⟨nofun, nofun, nofun⟩

theorem InOrder.inSync {moment : Moment venue} (inOrder : InOrder moment) : InSync moment where
  held bot found isBot none_ :=
    inOrder.books.settled bot (found.position, found.baseQtyHeld) (entries_of_bot isBot) none_
  size bot found isBot none_ :=
    inOrder.sizes.configured bot (found.settings, found.orderSizeUsdt) (sizes_of_bot isBot) none_

theorem single_of_filled {before : Moment venue} (books : BooksKept before) {caller bot : ℕ}
    {order : Order} {qty : ℚ} {nonneg : 0 ≤ qty}
    (own : (lane.phase before caller).flight = none)
    (suits : Suits before caller (.placeOrder bot order) (.filled qty nonneg))
    (more : before.state.net bot <
      before.state.net bot + Fill.signed ⟨bot, order.side, order.filledBy qty⟩) :
    before.state.net bot ≤ 0 := by
  rcases suits with ⟨isBuy, nothing⟩ | ⟨others, found⟩
  · rw [Fill.signed, isBuy] at more
    linarith
  · have leaves := net_filled books (flight_free own others) found
    unfold Fill.signed Fill.leaves at leaves
    unfold Fill.signed at more
    cases side : order.side with
    | buy =>
      simp only [side] at leaves
      linarith
    | sell =>
      simp only [side] at leaves more
      linarith

theorem orderSound_step (step : Step venue)
    (permitted : lane.permits (lane.phase step.before step.caller) step.op)
    (orderly : Orderly step) (inOrder : InOrder step.before) : OrderSound step := by
  obtain ⟨before, caller, op, fate⟩ := step
  refine ⟨fun bot order isOrder => ?_, fun bot more => ?_⟩
  · obtain rfl : op = .placeOrder bot order := isOrder
    exact inOrder.watch.held caller bot permitted.1
  · by_cases places : ∃ bot order, op = .placeOrder bot order
    · obtain ⟨placed, order, rfl⟩ := places
      cases fate with
      | rejected message => exact (lt_irrefl _ more).elim
      | filled qty nonneg =>
        have net := net_append before.state ⟨placed, order.side, order.filledBy qty⟩
        have grown : before.state.net bot <
            Function.update before.state.net placed (before.state.net placed +
              Fill.signed ⟨placed, order.side, order.filledBy qty⟩) bot := by
          rw [← net]
          exact more
        by_cases same : bot = placed
        · rw [same] at grown ⊢
          rw [Function.update_self] at grown
          exact single_of_filled inOrder.books permitted.2 orderly.suits grown
        · rw [Function.update_of_ne same] at grown
          exact (lt_irrefl _ grown).elim
    · have fills : (perform op fate before.state).1.fills = before.state.fills :=
        perform_fills (fun bot order isOrder => places ⟨bot, order, isOrder⟩) before.state
      have same : (perform op fate before.state).1.net bot = before.state.net bot := by
        unfold Desk.net
        rw [fills]
      exact (lt_irrefl _ (same ▸ more)).elim

/-- In an orderly run the memory of the bots agrees with the exchange, whatever is interleaved. -/
theorem inSync_of_orderly (requests : List Request) (turns : List (Turn venue))
    (orderly : ∀ step ∈ (liveSystem requests).steps turns, Orderly step) :
    (∀ step ∈ (liveSystem requests).steps turns, OrderSound step) ∧
      InSync ((liveSystem requests).run turns).moment := by
  have allowed : ∀ step ∈ (liveSystem requests).steps turns,
      lane.permits (lane.phase step.before step.caller) step.op ∧ Orderly step :=
    fun step member => ⟨permits_of_mem_steps requests turns step member, orderly step member⟩
  have each : ∀ step : Step venue, InOrder step.before →
      (lane.permits (lane.phase step.before step.caller) step.op ∧ Orderly step) →
      OrderSound step ∧ InOrder step.after := by
    rintro step inOrder ⟨permitted, isOrderly⟩
    refine ⟨orderSound_step step permitted isOrderly inOrder, ?_⟩
    exact ⟨booksKept_step step permitted isOrderly inOrder.books,
      sizesKept_step step permitted isOrderly inOrder.sizes,
      watchKept_step step permitted isOrderly inOrder.watch⟩
  obtain ⟨inOrder, sound⟩ := System.run_keeps each (inOrder_start requests) turns allowed
  exact ⟨sound, inOrder.inSync⟩

/-! ### Runs -/

def tenUsdt : BotSettings := ⟨"BTC/USDT", "BTCUSDT", 10⟩

/-- Everything answers: Bitcoin is at 100, every order is filled with a tenth of one, the signal is
to buy, and the advisor is down. -/
def fine : (op : Op) → Fate op
  | .isRunning => ()
  | .installBot _ _ => ()
  | .fire _ => ()
  | .settle _ => ()
  | .clearTimer => ()
  | .removeBot => ()
  | .emergencyRemove _ => ()
  | .readBot _ => (0 : ℕ)
  | .openTick _ => ()
  | .claimFirstTick _ => ()
  | .beginProbe _ => ()
  | .overwriteSize _ _ => ()
  | .restoreSize _ _ => ()
  | .reduceSize _ _ => ()
  | .observeEquity _ _ => ()
  | .setLong _ _ _ => ()
  | .stampExecution _ => (0 : ℕ)
  | .setFlat _ => (0 : ℕ)
  | .placeOrder _ _ => OrderFate.filled (1 / 10) (by decide +kernel)
  | .fetchPrice _ => some 100
  | .fetchBinanceUsdtBalance => some 50
  | .currentTime => (0 : ℕ)
  | .findPortfolio => .ok (some 1000)
  | .updatePortfolio _ => .ok ()
  | .appendTradingLog _ _ => .ok ()
  | .getCexExitSettings => .ok ⟨true, 10, 5⟩
  | .evaluateTradeIntent _ _ _ => .error "unavailable"
  | .computeAISignal _ => .ok (some ⟨.buy, 9 / 10, some 1⟩)
  | .findClosedPnls => .ok []
  | .findActiveSession => .ok none
  | .countOrdersSince _ => .ok 0
  | .persistStop _ => .ok ()

/-- There is no price. -/
def priceless : (op : Op) → Fate op
  | .fetchPrice _ => none
  | op => fine op

/-- The balance cannot be read. -/
def balanceless : (op : Op) → Fate op
  | .fetchBinanceUsdtBalance => none
  | op => fine op

def turnsOf (caller count : ℕ) (fate : (op : Op) → Fate op) : List (Turn venue) :=
  List.replicate count ⟨caller, fate⟩

/-- A start with its probe and the entry it forces, a tick that finds it, and a stop that sells
it. -/
theorem inSync_of_orderly_stop :
    (∀ step ∈ (liveSystem [.start tenUsdt, .interval 0, .stop]).steps
      (turnsOf 0 60 fine ++ turnsOf 1 60 fine ++ turnsOf 2 60 fine), OrderSound step) ∧
      InSync ((liveSystem [.start tenUsdt, .interval 0, .stop]).run
        (turnsOf 0 60 fine ++ turnsOf 1 60 fine ++ turnsOf 2 60 fine)).moment :=
  inSync_of_orderly _ _ (by decide +kernel)

/-- Two ticks overlap: each has found no position, and each buys. -/
def overlapping : Async.System venue Unit :=
  (liveSystem [.start tenUsdt, .interval 0, .interval 0]).run (turnsOf 0 7 priceless ++
    turnsOf 1 13 balanceless ++ turnsOf 2 19 balanceless ++ turnsOf 1 7 balanceless)

theorem not_inSync : ¬ ∀ (requests : List Request) (turns : List (Turn venue)),
    (∀ step ∈ (liveSystem requests).steps turns, OrderSound step) ∧
      InSync ((liveSystem requests).run turns).moment := by
  intro always
  have inSync : InSync overlapping.moment := (always _ _).2
  have wrong : (overlapping.moment.state.bots[0]?).any (fun found =>
      found.baseQtyHeld ≠ overlapping.moment.state.net 0) = true := by decide +kernel
  have own : (lane.phase overlapping.moment 3).flight = none := by decide +kernel
  have others : Others overlapping.moment 3 fun phase => phase.flight = none := by decide +kernel
  obtain ⟨found, isBot, differs⟩ := (Option.any_eq_true _ _).mp wrong
  refine of_decide_eq_true differs (inSync.held 0 found isBot fun caller fill isFlight => ?_)
  rw [flight_free own others caller] at isFlight
  cases isFlight

end GdslExchange.Live
