/-
This file walks through the calls of the live bot with a protocol: its callers go through the
phases of a kind wherever an entry, a close, the forced first entry and a signal that is carried
out do.
-/

import GdslExchange.Async.Protocol
import GdslExchange.Live.Bot

namespace GdslExchange.Live

open Async Async.Program
open Protocol (anywhere)

/-- Operations that neither order, nor ask the advisor, nor apply its advice. -/
def Common : Op → Prop
  | .placeOrder _ _ => False
  | .evaluateTradeIntent _ _ _ => False
  | .overwriteSize _ _ => False
  | .reduceSize _ _ => False
  | _ => True

/-- The calls go through the phases of a kind. A tick that fails may leave them. -/
structure Walks {Phase : Type} (protocol : Protocol venue Phase) (kept : Phase → Prop) : Prop where
  start : kept protocol.start
  common : ∀ {op}, Common op → ∀ phase, kept phase →
    protocol.permits phase op ∧ ∀ reply, kept (protocol.next phase op reply)
  settles : ∀ bot phase, protocol.permits phase (.settle bot)
  opens : ∀ bot price, protocol.Within kept kept (openLong bot price)
  closes : ∀ bot price, protocol.Within kept kept (closePosition bot price)
  forces : ∀ bot price, protocol.Within kept (fun _ => True) (forceFirst bot price)
  carries : ∀ bot price capitalUsd signal reading intent, protocol.Within kept (fun _ => True)
    (carryOut bot price capitalUsd signal reading intent)

namespace Walks

variable {Phase : Type} {protocol : Protocol venue Phase} {kept : Phase → Prop}
  {Value : Type}

theorem only (walks : Walks protocol kept) {program : Call Value} (only : program.Only Common) :
    protocol.Within kept kept program :=
  Protocol.Within.only (only.mono fun _ => walks.common)

theorem await (walks : Walks protocol kept) {op : Op} (isCommon : Common op) :
    protocol.Within kept kept (Live.await op) := walks.only (only_perform isCommon)

theorem log (walks : Walks protocol kept) (kind : LogKind) (message : String) :
    protocol.Within kept kept (Live.log kind message) := walks.await trivial

/-- What a tick does is done within the kind, but for where it fails. -/
theorem lose {program : Call Value} (within : protocol.Within kept kept program) :
    protocol.Within kept (fun _ => True) program := within.throwing fun _ _ => trivial

theorem await_then (walks : Walks protocol kept) {op : Op} {next : Result op → Call Value}
    (isCommon : Common op) (tail : ∀ result, protocol.Within kept kept (next result)) :
    protocol.Within kept kept (Live.await op >>= next) := (walks.await isCommon).bind tail

theorem lose_then (walks : Walks protocol kept) {op : Op} {next : Result op → Call Value}
    (isCommon : Common op)
    (tail : ∀ result, protocol.Within kept (fun _ => True) (next result)) :
    protocol.Within kept (fun _ => True) (Live.await op >>= next) :=
  (lose (walks.await isCommon)).bind tail

variable (walks : Walks protocol kept) (bot : ℕ) (settings : BotSettings) (price : ℚ)
include walks

theorem closeHeld : protocol.Within kept kept (closeHeld bot price) := by
  refine walks.await_then trivial fun reading => ?_
  split
  · exact walks.closes bot price
  · exact .done ()

theorem probeRoundTrip : protocol.Within kept kept (probeRoundTrip bot settings price) := by
  refine (walks.opens bot price).bind fun _ => walks.await_then trivial fun reading => ?_
  split
  · refine (walks.log _ _).bind fun _ => (walks.closes bot price).bind fun _ => ?_
    exact walks.log _ _
  · exact .done ()

theorem runLiveStartupProbe : protocol.Within kept kept (runLiveStartupProbe bot settings) := by
  refine walks.await_then trivial fun found => ?_
  cases found with
  | none => exact walks.log _ _
  | some price =>
    refine walks.await_then trivial fun begun => ?_
    cases begun with
    | none => exact walks.log _ _
    | some saved =>
      refine .andFinally ?_ (walks.await trivial)
      exact .recover (walks.probeRoundTrip bot settings price) fun _ => walks.log _ _

theorem hardExits : protocol.Within kept kept (hardExits bot price) := by
  have closed : protocol.Within kept kept (do
      closePosition bot price
      pure true) := (walks.closes bot price).bind fun _ => .done true
  refine walks.await_then trivial fun exitPrefs => ?_
  split
  · refine walks.await_then trivial fun reading => ?_
    dsimp only
    split
    · exact (walks.log _ _).bind fun _ => closed
    · split
      · exact (walks.log _ _).bind fun _ => closed
      · exact .done false
  · exact .done false

theorem tickDecision (capitalUsd : ℚ) (signal : Paper.AISignalResult) :
    protocol.Within kept (fun _ => True) (tickDecision bot price capitalUsd signal) := by
  refine walks.lose_then trivial fun pnls => ?_
  refine walks.lose_then trivial fun reading => ?_
  split
  · split
    · exact lose (walks.log _ _)
    · exact .done ()
  · exact walks.carries bot price capitalUsd signal reading _

theorem tickObserved (signal : Paper.AISignalResult) (observation : Observation) :
    protocol.Within kept (fun _ => True) (tickObserved bot price signal observation) := by
  unfold Live.tickObserved
  split
  · refine lose ((walks.log _ _).bind fun _ => (walks.closeHeld bot price).bind fun _ => ?_)
    refine walks.await_then trivial fun _ => ?_
    exact .recover (walks.await trivial) fun _ => .done ()
  · exact (lose (walks.log _ _)).bind fun _ => walks.tickDecision bot price _ signal
  · exact walks.tickDecision bot price _ signal

theorem tickSignal : protocol.Within kept (fun _ => True) (tickSignal bot settings price) := by
  refine walks.lose_then trivial fun found => ?_
  cases found with
  | none => exact .done ()
  | some signal =>
    refine (lose (walks.log _ _)).bind fun _ => walks.lose_then trivial fun portfolio => ?_
    refine walks.lose_then trivial fun observation => ?_
    exact walks.tickObserved bot price signal observation

theorem firstIfDue (isFirst : Bool) :
    protocol.Within kept (fun _ => True) (firstIfDue bot price isFirst) := by
  unfold Live.firstIfDue
  split
  · exact walks.forces bot price
  · exact .done false

theorem tickEntry (tickStart : TickStart) :
    protocol.Within kept (fun _ => True) (tickEntry bot price tickStart) := by
  cases tickStart with
  | holding =>
    refine (lose (walks.hardExits bot price)).bind fun ended => ?_
    split
    · exact .done true
    · exact walks.lose_then trivial fun isFirst => walks.firstIfDue bot price isFirst
  | first => exact walks.firstIfDue bot price true
  | later => exact walks.firstIfDue bot price false

theorem tick : protocol.Within kept (fun _ => True) (tick bot settings) := by
  refine walks.lose_then trivial fun found => ?_
  cases found with
  | none => exact .done ()
  | some price =>
    refine walks.lose_then trivial fun tickStart => ?_
    refine (walks.tickEntry bot price tickStart).bind fun ended => ?_
    split
    · exact .done ()
    · exact walks.tickSignal bot settings price

theorem stopBot (found : LiveBot) : protocol.Within kept kept (stopBot bot found) := by
  have stopped : protocol.Within kept kept (stopPosition bot found) := by
    unfold stopPosition
    split
    · refine walks.await_then trivial fun price => ?_
      cases price with
      | none => exact .done ()
      | some price => exact walks.closes bot price
    · exact .done ()
  have seconds (session : Option ℕ) : (sessionSeconds session).Only Common := by
    cases session with
    | none => trivial
    | some startedAt => exact only_then trivial fun _ => trivial
  refine stopped.bind fun _ => walks.await_then trivial fun session => ?_
  refine (walks.only (seconds session)).bind fun _ => ?_
  exact walks.await_then trivial fun _ => walks.await trivial

/-! ### Calls -/

omit walks in
theorem ends_anywhere {program : Call Value} {lost : Phase → Prop} {phase : Phase}
    (within : protocol.Within kept lost program) (holds : kept phase) :
    protocol.Follows phase program anywhere := by
  refine (within phase holds).mono fun result reached _ => ?_
  cases result <;> trivial

theorem holding {body : Call Unit} {phase : Phase}
    (held : protocol.Follows phase body anywhere) :
    protocol.Follows phase (holding bot body) anywhere := by
  have settled (reached : Phase) : protocol.Follows reached (Live.await (.settle bot)) anywhere :=
    Protocol.Follows.perform (walks.settles bot reached) (fun _ => trivial) fun _ => trivial
  exact Protocol.Follows.finally held (fun _ reached _ => settled reached) fun reached _ =>
    settled reached

theorem runTick {phase : Phase} (holds : kept phase) :
    protocol.Follows phase ((Live.tick bot settings).recover fun _ => pure ()) anywhere :=
  Protocol.Follows.recover (ends_anywhere (walks.tick bot settings) holds) fun _ _ _ => trivial

/-- After an operation that is always permitted. -/
theorem asked {op : Op} {next : Result op → Call Value} {phase : Phase} (holds : kept phase)
    (isCommon : Common op) (tail : ∀ result reached, kept reached →
      protocol.Follows reached (next result) anywhere) :
    protocol.Follows phase (Live.await op >>= next) anywhere :=
  Protocol.Follows.bind (lose (walks.await isCommon) phase holds) tail

omit bot settings price in
theorem call (request : Request) :
    protocol.Follows protocol.start request.call anywhere := by
  cases request with
  | start settings =>
    refine walks.asked walks.start trivial fun running idle holds => ?_
    refine Protocol.Follows.throwIf (fun _ => trivial) fun _ => ?_
    refine walks.asked holds trivial fun portfolio reached holds => ?_
    refine walks.asked holds trivial fun bot reached holds => walks.holding bot ?_
    exact Protocol.Follows.bind (lose (walks.runLiveStartupProbe bot settings) reached holds)
      fun _ _ holds => walks.runTick bot settings holds
  | stop =>
    refine walks.asked walks.start trivial fun cleared reached holds => ?_
    refine Protocol.Follows.orThrow (fun _ => trivial) fun found _ => ?_
    exact walks.holding found.1 (ends_anywhere (walks.stopBot found.1 found.2) holds)
  | interval bot =>
    refine walks.asked walks.start trivial fun fired reached holds => ?_
    cases fired with
    | none => trivial
    | some settings => exact walks.holding bot (walks.runTick bot settings holds)

omit bot settings price in
theorem permitted (requests : List Request) (turns : List (Turn venue)) :
    ∀ step ∈ (liveSystem requests).steps turns,
      protocol.permits (protocol.phase step.before step.caller) step.op :=
  Protocol.permitted (System.each_call fun _ request => walks.call request) turns

end Walks

end GdslExchange.Live
