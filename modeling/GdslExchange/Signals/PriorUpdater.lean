/-
This file models how the meta-policy logs its decisions and how the prior updater
learns from them: it looks at the signals that have no outcome yet, takes the first
hourly bar after each as what the price did, writes the outcome, and hands the
rationale of the signal to the update of the priors.

The rationale is an object whose fields are the numbers and words of the decision; the
sources and what they said are an object inside it. The updater reads the fields as if
they were the sources.
-/

import GdslExchange.Async.Delivery
import GdslExchange.Async.Program
import GdslExchange.Signals.Ensemble
import GdslExchange.SuperMachine.Policy
import Mathlib.Data.List.MinMax
import Mathlib.Data.List.Sort

namespace GdslExchange.Signals.PriorUpdater

open Async Async.Program
open SuperMachine (MarketReading MetaAction Regime entryThreshold)

/-! ### Decisions -/

/-- A value of a rationale, as its column holds it. -/
inductive RationaleValue where
  | null
  | bool (value : Bool)
  | number (value : ℚ)
  | string (value : String)
  | record (entries : List (String × Direction))
deriving DecidableEq

def directionName : Direction → String
  | .up => "UP"
  | .down => "DOWN"
  | .neutral => "NEUTRAL"

def regimeName : Regime → String
  | .trending => "TRENDING"
  | .ranging => "RANGING"
  | .transition => "TRANSITION"

def actionName : MetaAction → String
  | .buy => "BUY"
  | .sell => "SELL"
  | .hold => "HOLD"

/-- What `decide` logs: what it read, what the models said, and the action after all gates. -/
structure Decision where
  reading : MarketReading
  adxValue : ℚ
  bayesDirection : Direction
  rlAction : MetaAction
  rawAction : MetaAction
  blocked : Option String
  components : SignalRecord

namespace Decision

variable (decision : Decision)

def direction : Direction :=
  match decision.rawAction with
  | .buy => .up
  | .sell => .down
  | .hold => .neutral

/-- The object that is logged as the rationale. -/
def rationale : List (String × RationaleValue) :=
  [("pUp", .number decision.reading.pUp),
    ("threshold", .number (entryThreshold decision.reading.regime)),
    ("regime", .string (regimeName decision.reading.regime)),
    ("adxValue", .number decision.adxValue),
    ("bayesDirection", .string (directionName decision.bayesDirection)),
    ("rlAction", .string (actionName decision.rlAction)),
    ("obi", (decision.reading.obi.map RationaleValue.number).getD .null),
    ("obiBlocked", .bool decision.reading.obiBlocked),
    ("blocked", (decision.blocked.map RationaleValue.string).getD .null),
    ("components", .record decision.components.entries)]

end Decision

/-! ### Rows -/

/-- A `Kline`, as far as the updater reads it. -/
structure Kline where
  symbol : String
  interval : String
  openTime : ℕ
  open_ : ℚ
  close : ℚ

inductive Outcome where
  | win
  | loss
deriving DecidableEq

namespace Kline

variable (bar : Kline)

def actualUp : Bool := bar.close ≥ bar.open_

def outcome : Outcome := if bar.actualUp then .win else .loss

def retPct : ℚ := (bar.close - bar.open_) / bar.open_

end Kline

/-- The columns that an update fills in, and the bar they come from, which no column holds. -/
structure Resolution where
  outcome : Outcome
  returnPct : ℚ
  bar : Kline

/-- A `Signal` of the meta-policy. -/
structure Signal where
  symbol : String
  ts : ℕ
  decision : Decision
  resolution : Option Resolution

/-- The tables, and what the priors would be if nothing had been learned. -/
structure Desk where
  signals : List Signal
  klines : List Kline
  priors : Priors
  base : Priors

def HOUR : ℕ := 3600000

namespace Desk

variable (desk : Desk)

/-- The first hourly bar that opens after a time. -/
def nextBar (symbol : String) (ts : ℕ) : Option Kline :=
  let later := desk.klines.filter fun bar =>
    bar.symbol = symbol ∧ bar.interval = "1h" ∧ ts < bar.openTime
  later.argmin Kline.openTime

/-- The signals without an outcome that are older than an hour, the oldest first. -/
def due (now : ℕ) : List (Stored Signal) :=
  ((desk.signals.mapIdx Stored.mk).filter fun sig =>
    sig.row.resolution.isNone ∧ sig.row.ts + HOUR < now).insertionSort fun first second =>
      first.row.ts ≤ second.row.ts

def unresolved (now : ℕ) : List (Stored Signal) := (desk.due now).take 500

def create (symbol : String) (ts : ℕ) (decision : Decision) : Desk :=
  { desk with signals := desk.signals ++ [⟨symbol, ts, decision, none⟩] }

def resolve (id : ℕ) (bar : Kline) : Desk :=
  { desk with
    signals := desk.signals.modify id fun signal =>
      { signal with resolution := some ⟨bar.outcome, bar.retPct, bar⟩ } }

/-- A bar is stored in place of an older state of it. -/
def store (bar : Kline) : Desk :=
  { desk with
    klines := bar :: desk.klines.filter fun other =>
      ¬ (other.symbol = bar.symbol ∧ other.interval = bar.interval ∧
        other.openTime = bar.openTime) }

def read (key : PriorKey) : Desk :=
  { desk with priors := Signals.getPrior key desk.priors, base := Signals.getPrior key desk.base }

def learn (key : PriorKey) (dir : Direction) (actualUp : Bool) : Desk :=
  { desk with priors := upsert key (BayesPrior.learn dir actualUp) desk.priors }

end Desk

/-! ### Operations -/

inductive Op where
  | findUnresolved (now : ℕ)
  | findNextBar (symbol : String) (ts : ℕ)
  | updateSignal (id : ℕ) (bar : Kline)
  | upsertPrior (key : PriorKey) (dir : Direction) (actualUp : Bool)
  | createSignal (symbol : String) (ts : ℕ) (decision : Decision)
  | getPrior (key : PriorKey)
  | storeKline (bar : Kline)

abbrev Result : Op → Type
  | .findUnresolved _ => List (Stored Signal)
  | .findNextBar _ _ => Option Kline
  | _ => Unit

def perform : (op : Op) → Delivery → Desk → Desk × Except String (Result op)
  | .findUnresolved now, delivery, desk => delivery.read desk (desk.unresolved now)
  | .findNextBar symbol ts, delivery, desk => delivery.read desk (desk.nextBar symbol ts)
  | .updateSignal id bar, delivery, desk => delivery.write desk (desk.resolve id bar) ()
  | .upsertPrior key dir actualUp, delivery, desk =>
    delivery.write desk (desk.learn key dir actualUp) ()
  | .createSignal symbol ts decision, delivery, desk =>
    delivery.write desk (desk.create symbol ts decision) ()
  | .getPrior key, delivery, desk => delivery.write desk (desk.read key) ()
  | .storeKline bar, delivery, desk => delivery.write desk (desk.store bar) ()

/-- The outside world of the updater. -/
@[reducible] def tables : Service where
  State := Desk
  Op := Op
  Result := Result
  Failure := String
  Fate _ := Delivery
  perform := perform

abbrev Call (Value : Type) : Type := Program tables Value

def await (op : Op) : Call (Result op) := @Program.perform tables op

/-! ### Calls -/

/-- What a value is where a direction is expected, which nothing checks. -/
def RationaleValue.asDirection (value : RationaleValue) : Direction :=
  if value = .string "NEUTRAL" then .neutral else if value = .string "UP" then .up else .down

def updatePrior (symbol interval : String) (actualUp : Bool) (entry : String × RationaleValue) :
    Call Unit :=
  if entry.2.asDirection = .neutral then pure ()
  else await (.upsertPrior ⟨entry.1, symbol, interval⟩ entry.2.asDirection actualUp)

/-- Every upsert of `updatePriors` is started, whatever becomes of the others; the failure of one
ends in the log of the caller. -/
def updatePriors (symbol interval : String) (signals : List (String × RationaleValue))
    (actualUp : Bool) : Call Unit :=
  forEach (fun entry => recover (updatePrior symbol interval actualUp entry) fun _ => pure ())
    signals

/-- The body of the loop. -/
def resolveSignal (sig : Stored Signal) : Call Unit := do
  let nextBar ← await (.findNextBar sig.row.symbol sig.row.ts)
  match nextBar with
  | none => pure ()
  | some bar =>
    await (.updateSignal sig.id bar)
    updatePriors sig.row.symbol "1h" sig.row.decision.rationale bar.actualUp

def runPriorUpdate (now : ℕ) : Call Unit := do
  let unresolved ← await (.findUnresolved now)
  forEach (fun sig => recover (resolveSignal sig) fun _ => pure ()) unresolved

inductive Request where
  | update (now : ℕ)
  /-- `decide` logs a decision. -/
  | decide (symbol : String) (ts : ℕ) (decision : Decision)
  /-- An ensemble reads the priors of its sources. -/
  | ensemble (symbol interval : String)
  /-- A bar is stored. -/
  | store (bar : Kline)

def Request.call : Request → Call Unit
  | update now => runPriorUpdate now
  | decide symbol ts decision =>
    recover (await (.createSignal symbol ts decision)) fun _ => pure ()
  | ensemble symbol interval =>
    forEach (fun name => recover (await (.getPrior ⟨name, symbol, interval⟩)) fun _ => pure ())
      sources
  | store bar => await (.storeKline bar)

/-- The priors at the start, and the requests of a run. -/
def learningSystem (priors : Priors) (requests : List Request) : System tables Unit :=
  ⟨⟨⟨[], [], priors, priors⟩, []⟩, requests.map Request.call⟩

end GdslExchange.Signals.PriorUpdater
