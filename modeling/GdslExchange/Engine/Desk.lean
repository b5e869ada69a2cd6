/-
This file models what the routes of the engine and the live bots of one user talk to: the
sessions of the user, the bots in memory with their exchange, and the rest of the
application, which answers whatever it likes.

The map of bots is keyed by the user and every query of the routes is for the user, so
the requests of another user touch none of this.
-/

import GdslExchange.Async.Delivery
import GdslExchange.Async.Embedding
import GdslExchange.Live.Bot

namespace GdslExchange.Engine

open Async (Delivery)

/-! ### Sessions -/

structure BotSession where
  strategyId : String
  isActive : Bool

def BotSession.stopped (session : BotSession) : BotSession := { session with isActive := false }

/-- The sessions of the user; the id of a row is its place, and a deleted row leaves it empty. -/
abbrev Sessions := List (Option BotSession)

namespace Sessions

variable (sessions : Sessions)

def find (id : ℕ) : Option BotSession := sessions[id]?.join

/-- The ids of the active sessions, in creation order. -/
def active : List ℕ :=
  (List.range sessions.length).filter fun id => (sessions.find id).any BotSession.isActive

def create (strategyId : String) : Sessions := sessions ++ [some ⟨strategyId, true⟩]

def deactivate (id : ℕ) : Sessions := sessions.modify id (Option.map BotSession.stopped)

def delete (id : ℕ) : Sessions := sessions.set id none

/-- `updateMany` of what is active. -/
def deactivateAll : Sessions := sessions.map (Option.map BotSession.stopped)

end Sessions

/-- The sessions, and what the live bots talk to. -/
structure Desk where
  sessions : Sessions
  live : Live.Desk

/-! ### Answers -/

/-- The fields of a signal snapshot that the start looks at. -/
structure SignalReadiness where
  providerCount : ℕ
  confidence : ℚ
  updatedAt : ℤ

/-- The fields of an `AutomationReadiness` that the start looks at. -/
structure AutomationReadiness where
  ready : Bool
  blockers : List String

structure ExchangeConnection where
  encryptedApiKey : String
  encryptedSecret : String
  canTrade : Bool
  canWithdraw : Bool

inductive ExecutionEventType where
  | botStarted
  | botStopped
deriving DecidableEq

/-! ### Operations -/

inductive Op where
  | findStrategy (strategyId : String)
  | computeOpenSignalSnapshot (symbol : String)
  | computeAutomationReadiness (exchangeConnectionId : String)
  | findConnection (exchangeConnectionId : String)
  | getFreeUsdt (encryptedApiKey encryptedSecret : String)
  | findMaxOrderNotional
  | findActiveSession
  | createSession (strategyId : String)
  | updateSession (id : ℕ)
  | deleteSession (id : ℕ)
  | createRun (strategyId : String)
  | findRunningRun
  | stopRun (id : ℕ) (stopReason : String)
  | failRun (id : ℕ) (stopReason : String)
  | createEvent (run : ℕ) (eventType : ExecutionEventType)
  | bot (op : Live.Op)

@[reducible] def Result : Op → Type
  | .findStrategy _ => Option String
  | .computeOpenSignalSnapshot _ => SignalReadiness
  | .computeAutomationReadiness _ => AutomationReadiness
  | .findConnection _ => Option ExchangeConnection
  | .getFreeUsdt _ _ => ℚ
  | .findMaxOrderNotional => Option ℚ
  | .findActiveSession => Option ℕ
  | .createSession _ => ℕ
  | .updateSession _ => Unit
  | .deleteSession _ => Unit
  | .createRun _ => ℕ
  | .findRunningRun => Option ℕ
  | .stopRun _ _ => Unit
  | .failRun _ _ => Unit
  | .createEvent _ _ => Unit
  | .bot op => Live.Result op

/-- The fate of an operation of a live bot, and of the `updateMany` that an emergency stop
persists itself with first. -/
structure BotFate (op : Live.Op) where
  fate : Live.Fate op
  sweep : Delivery

@[reducible] def Fate : Op → Type
  | .findActiveSession => Delivery
  | .createSession _ => Delivery
  | .updateSession _ => Delivery
  | .deleteSession _ => Delivery
  | .bot op => BotFate op
  | op => Except String (Result op)

/-- Where the `updateMany` fails, the rest of what an emergency stop persists is skipped. -/
def BotFate.met : (op : Live.Op) → BotFate op → Live.Fate op
  | .persistStop _, fate => fate.sweep.reply () >>= fun _ => fate.fate
  | _, fate => fate.fate

def Sessions.afterBot (sessions : Sessions) (op : Live.Op) (sweep : Delivery) : Sessions :=
  match op with
  | .persistStop _ => if sweep.Applies then sessions.deactivateAll else sessions
  | _ => sessions

def Desk.withSessions (desk : Desk) (sessions : Sessions) : Desk := { desk with sessions }

def perform : (op : Op) → Fate op → Desk → Desk × Except String (Result op)
  | .findActiveSession, delivery, desk => delivery.read desk desk.sessions.active.head?
  | .createSession strategyId, delivery, desk =>
    delivery.write desk (desk.withSessions (desk.sessions.create strategyId)) desk.sessions.length
  | .updateSession id, delivery, desk =>
    delivery.update desk (desk.sessions.find id) fun _ =>
      (desk.withSessions (desk.sessions.deactivate id), ())
  | .deleteSession id, delivery, desk =>
    delivery.update desk (desk.sessions.find id) fun _ =>
      (desk.withSessions (desk.sessions.delete id), ())
  | .bot op, fate, desk =>
    ({ sessions := desk.sessions.afterBot op fate.sweep
       live := (Live.perform op (fate.met op) desk.live).1 },
      (Live.perform op (fate.met op) desk.live).2)
  | .findStrategy _, answer, desk => (desk, answer)
  | .computeOpenSignalSnapshot _, answer, desk => (desk, answer)
  | .computeAutomationReadiness _, answer, desk => (desk, answer)
  | .findConnection _, answer, desk => (desk, answer)
  | .getFreeUsdt _ _, answer, desk => (desk, answer)
  | .findMaxOrderNotional, answer, desk => (desk, answer)
  | .createRun _, answer, desk => (desk, answer)
  | .findRunningRun, answer, desk => (desk, answer)
  | .stopRun _ _, answer, desk => (desk, answer)
  | .failRun _ _, answer, desk => (desk, answer)
  | .createEvent _ _, answer, desk => (desk, answer)

/-- The outside world of the engine. -/
abbrev engine : Async.Service where
  State := Desk
  Op := Op
  Result := Result
  Failure := String
  Fate := Fate
  perform := perform

abbrev Call (Value : Type) := Async.Program engine Value

def await (op : Op) : Call (Result op) := @Async.Program.perform engine op

/-- The live bots run among the requests. -/
def bots : Async.Embedding Live.venue engine where
  op := Op.bot
  fate := BotFate.met
  view := Desk.live
  reply := fun _ answer => answer
  failure := id
  view_perform := fun _ _ _ => rfl
  reply_perform := fun _ _ _ => rfl

end GdslExchange.Engine
