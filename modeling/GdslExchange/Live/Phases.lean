/-
This file reads a call of the live bot as a caller that moves through phases: the bot
it holds, the order it has had filled and not yet entered, and the order size it has
overwritten and not yet restored.

A call that fails while it has something to enter never enters it; a call that fails
while it has a size to restore restores it, except right after it has overwritten the
size for the forced first entry.
-/

import GdslExchange.Async.Protocol
import GdslExchange.Live.Bot

namespace GdslExchange.Live

open Async Async.Program

/-! ### Phases -/

/-- An order size that has been overwritten, and whether a `finally` restores it. -/
structure Sizing where
  bot : ℕ
  saved : ℚ
  isGuarded : Bool

/-- What a caller is at; it is stopping a bot if it has cleared its interval. -/
structure Phase where
  holds : Option ℕ
  stopping : Bool
  flight : Option Fill
  sizing : Option Sizing

namespace Phase

def idle : Phase := ⟨none, false, none, none⟩

variable (phase : Phase)

/-- What a failure leaves of a phase. -/
def dropped : Phase :=
  { phase with flight := none, sizing := phase.sizing.filter Sizing.isGuarded }

/-- The log line after an overwrite has been written. -/
def guarded : Phase :=
  { phase with sizing := phase.sizing.map fun sizing => { sizing with isGuarded := true } }

def flying (fill : Fill) : Phase := { phase with flight := some fill }

def landed : Phase := { phase with flight := none }

def sized (sizing : Sizing) : Phase := { phase with sizing := some sizing }

def restored : Phase := { phase with sizing := none }

def left : Phase := { phase with holds := none }

/-- What a fill leads to: a BUY that is not filled with anything is not entered. -/
def filled (bot : ℕ) (side : Side) (qty : ℚ) : Phase :=
  if side = .buy ∧ qty ≤ 0 then phase else phase.flying ⟨bot, side, qty⟩

def next (op : Op) (reply : Except String (Result op)) : Phase :=
  match op, reply with
  | .restoreSize _ _, _ => phase.restored
  | .settle _, _ => idle
  | .installBot _ _, .ok bot => { phase with holds := some bot }
  | .fire bot, .ok (some _) => { phase with holds := some bot }
  | .clearTimer, .ok (some found) => { phase with holds := some found.1, stopping := true }
  | .removeBot, .ok _ => phase.left
  | .emergencyRemove _, .ok _ => phase.left
  | .beginProbe bot, .ok (some saved) => phase.sized ⟨bot, saved, true⟩
  | .overwriteSize bot _, .ok saved => phase.sized ⟨bot, saved, false⟩
  | .placeOrder bot order, .ok qty => phase.filled bot order.side qty
  | .setLong _ _ _, .ok _ => phase.landed
  | .setFlat _, .ok _ => phase.landed
  | .appendTradingLog _ _, .ok _ => phase.guarded
  | _, .ok _ => phase
  | _, .error _ => phase.dropped

/-- Nothing is left to enter or to restore. -/
structure Rested : Prop where
  flight : phase.flight = none
  sizing : phase.sizing = none

/-- Nothing is left to enter, and what is left to restore will be. -/
structure Calm : Prop where
  flight : phase.flight = none
  sizing : ∀ sizing ∈ phase.sizing, sizing.isGuarded = true

end Phase

def lane : Protocol venue Phase where
  start := .idle
  permits phase
    | .installBot _ _ => phase = .idle
    | .fire _ => phase = .idle
    | .clearTimer => phase = .idle
    | .settle _ => phase.Rested
    | .removeBot => phase.holds ≠ none ∧ phase.stopping = true
    | .emergencyRemove bot => phase.holds = some bot
    | .beginProbe bot => phase.holds = some bot ∧ phase.sizing = none
    | .overwriteSize bot _ => phase.holds = some bot ∧ phase.sizing = none
    | .restoreSize bot size => phase.sizing = some ⟨bot, size, true⟩
    | .placeOrder bot _ => phase.holds = some bot ∧ phase.flight = none
    | .setLong bot qty _ => phase.flight = some ⟨bot, .buy, qty⟩
    | .setFlat bot => ∃ qty, phase.flight = some ⟨bot, .sell, qty⟩
    | _ => True
  next := Phase.next

/-! ### Operations that lead nowhere -/

/-- Operations that are always permitted, and lead nowhere unless they fail. -/
def Plain : Op → Prop
  | .isRunning => True
  | .readBot _ => True
  | .openTick _ => True
  | .claimFirstTick _ => True
  | .reduceSize _ _ => True
  | .observeEquity _ _ => True
  | .stampExecution _ => True
  | .fetchPrice _ => True
  | .findPortfolio => True
  | .updatePortfolio _ => True
  | .getCexExitSettings => True
  | .fetchBinanceUsdtBalance => True
  | .evaluateTradeIntent _ _ _ => True
  | .computeAISignal _ => True
  | .findClosedPnls => True
  | .findActiveSession => True
  | .countOrdersSince _ => True
  | .persistStop _ => True
  | .currentTime => True
  | _ => False

theorem permits_of_plain {op : Op} (plain : Plain op) (phase : Phase) : lane.permits phase op := by
  cases op <;> first | exact trivial | exact plain.elim

theorem next_plain_ok {op : Op} (plain : Plain op) (phase : Phase) (result : Result op) :
    phase.next op (.ok result) = phase := by
  cases op <;> first | rfl | exact plain.elim

theorem next_plain_error {op : Op} (plain : Plain op) (phase : Phase) (failure : String) :
    phase.next op (.error failure) = phase.dropped := by
  cases op <;> first | rfl | exact plain.elim

/-! ### Calm phases -/

section Calm

variable {phase : Phase} {fill : Fill} {sizing : Sizing}

theorem Phase.Rested.calm (rested : phase.Rested) : phase.Calm := by
  refine ⟨rested.flight, fun sizing member => ?_⟩
  rw [rested.sizing] at member
  cases member

section

variable (calm : phase.Calm)
include calm

theorem Phase.dropped_of_calm : phase.dropped = phase := by
  obtain ⟨holds, stopping, flight, sizing⟩ := phase
  obtain ⟨rfl, guarded⟩ := calm
  cases sizing with
  | none => rfl
  | some sizing => simp [dropped, guarded sizing rfl]

theorem Phase.guarded_of_calm : phase.guarded = phase := by
  obtain ⟨holds, stopping, flight, sizing⟩ := phase
  obtain ⟨-, guarded⟩ := calm
  cases sizing with
  | none => rfl
  | some sizing =>
    obtain ⟨bot, saved, isGuarded⟩ := sizing
    have isTrue : isGuarded = true := guarded _ rfl
    rw [isTrue]
    rfl

theorem Phase.landed_of_calm : phase.landed = phase := by
  obtain ⟨holds, stopping, flight, sizing⟩ := phase
  obtain ⟨rfl, -⟩ := calm
  rfl

theorem Phase.dropped_flying : (phase.flying fill).dropped = phase :=
  (rfl : (phase.flying fill).dropped = phase.dropped).trans (dropped_of_calm calm)

theorem Phase.guarded_flying :
    (phase.flying fill).guarded = phase.flying fill :=
  (rfl : (phase.flying fill).guarded = phase.guarded.flying fill).trans
    (congrArg (flying · fill) (guarded_of_calm calm))

theorem Phase.landed_flying : (phase.flying fill).landed = phase :=
  (rfl : (phase.flying fill).landed = phase.landed).trans (landed_of_calm calm)

end

theorem Phase.restored_of_rested (rested : phase.Rested) : phase.restored = phase := by
  obtain ⟨holds, stopping, flight, sizing⟩ := phase
  obtain ⟨-, rfl⟩ := rested
  rfl

theorem Phase.restored_sized (rested : phase.Rested) : (phase.sized sizing).restored = phase :=
  (rfl : (phase.sized sizing).restored = phase.restored).trans (restored_of_rested rested)

/-- A size that a `finally` restores is no worry. -/
theorem Phase.Rested.calm_sized (rested : phase.Rested) (bot : ℕ) (saved : ℚ) :
    (phase.sized ⟨bot, saved, true⟩).Calm := by
  refine ⟨rested.flight, fun sizing member => ?_⟩
  rw [← Option.some.inj (Option.mem_def.mp member)]

theorem Phase.dropped_unguarded (rested : phase.Rested) (bot : ℕ) (saved : ℚ) :
    (phase.sized ⟨bot, saved, false⟩).dropped = phase := by
  obtain ⟨holds, stopping, flight, sizing⟩ := phase
  obtain ⟨rfl, rfl⟩ := rested
  rfl

end Calm

/-! ### Rules -/

section Rules

variable {Value : Type} {phase : Phase} {fill : Fill} {op : Op}

theorem stays_plain (plain : Plain op) (calm : phase.Calm) : lane.Stays phase (await op) := by
  refine Protocol.Follows.perform (permits_of_plain plain phase) (fun result => ?_) fun failure => ?_
  · exact next_plain_ok plain phase result
  · exact (next_plain_error plain phase failure).trans (Phase.dropped_of_calm calm)

theorem stays_log (calm : phase.Calm) (kind : LogKind) (message : String) :
    lane.Stays phase (log kind message) := by
  refine Protocol.Follows.perform trivial (fun result => ?_) fun failure => ?_
  · exact Phase.guarded_of_calm calm
  · exact Phase.dropped_of_calm calm

/-- With a fill to enter, what fails never enters it. -/
theorem flies_plain (plain : Plain op) (calm : phase.Calm) :
    lane.Follows (phase.flying fill) (await op)
      (Protocol.ends (fun _ reached => reached = phase.flying fill) fun reached =>
        reached = phase) := by
  refine Protocol.Follows.perform (permits_of_plain plain _) (fun result => ?_) fun failure => ?_
  · exact next_plain_ok plain _ result
  · exact (next_plain_error plain _ failure).trans (Phase.dropped_flying calm)

theorem flies_log (calm : phase.Calm) (kind : LogKind) (message : String) :
    lane.Follows (phase.flying fill) (log kind message)
      (Protocol.ends (fun _ reached => reached = phase.flying fill) fun reached =>
        reached = phase) := by
  refine Protocol.Follows.perform trivial (fun result => ?_) fun failure => ?_
  · exact Phase.guarded_flying calm
  · exact Phase.dropped_flying calm

end Rules

end GdslExchange.Live
