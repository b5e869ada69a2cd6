/-
This file models the candle store of one symbol and one interval: the job that walks the
history back and then syncs forward, the round-robin refresh and the websocket, which
insert closed bars as they come.

A bar is the number of intervals since the epoch at which it opens, so the bar in progress
has the number of the current interval. The exchange has every bar from the listing of the
symbol on. Of a bar, only whether it is stored is modelled; the pruning of bars that are
past their retention is not.
-/

import GdslExchange.Async.Delivery
import GdslExchange.Async.Protocol
import Mathlib.Data.List.Intervals

namespace GdslExchange.Market

open Async Async.Program

/-! ### Intervals -/

inductive Interval where
  | oneMinute
  | fiveMinutes
  | fifteenMinutes
  | oneHour
  | fourHours
  | oneDay
deriving DecidableEq

inductive Scope where
  | universe
  | core
deriving DecidableEq

structure IntervalConfig where
  targetBars : ℕ
  scope : Scope
  stream : Bool

def Interval.config : Interval → IntervalConfig
  | oneDay => ⟨730, .universe, false⟩
  | fourHours => ⟨1200, .universe, false⟩
  | oneHour => ⟨2000, .universe, true⟩
  | fifteenMinutes => ⟨1500, .universe, true⟩
  | fiveMinutes => ⟨1000, .core, false⟩
  | oneMinute => ⟨1500, .core, true⟩

def Interval.targetBars (interval : Interval) : ℕ := interval.config.targetBars

/-! ### The store and the exchange -/

/-- The first bar of the symbol, the bar in progress, the stored bars, whether a backfill is
running, and whether the job is in `completedJobs`. -/
structure Desk where
  listing : ℕ
  now : ℕ
  store : List ℕ
  running : Bool
  completed : Bool

/-- The times of a request: neither, an `endTime` or a `startTime`. -/
inductive Range where
  | latest
  | before (bar : ℕ)
  | after (bar : ℕ)
deriving DecidableEq

namespace Desk

variable (desk : Desk)

/-- What the exchange answers: the bars of the range up to the limit, the one in progress
included; the last ones unless there is a `startTime`. -/
def answer (limit : ℕ) : Range → List ℕ
  | .latest => List.Ico (max desk.listing (desk.now + 1 - limit)) (desk.now + 1)
  | .before bar =>
    let top := min bar (desk.now + 1)
    List.Ico (max desk.listing (top - limit)) top
  | .after bar =>
    let first := max desk.listing (bar + 1)
    List.Ico first (min (desk.now + 1) (first + limit))

def fresh (bars : List ℕ) : List ℕ := bars.filter fun bar => bar ∉ desk.store

/-- `createMany` with `skipDuplicates`. -/
def insert (bars : List ℕ) : Desk := { desk with store := desk.store ++ desk.fresh bars }

end Desk

inductive Op where
  /-- `backfillRunning` is looked at, and set. -/
  | begin
  | buildBackfillQueue
  | finish
  | isCompleted
  | complete
  | findOldest
  | findNewest
  /-- `Date.now()`. -/
  | clock
  | fetch (range : Range) (limit : ℕ)
  | createMany (bars : List ℕ)
  /-- The next bar begins. -/
  | elapse
  /-- A message of the websocket, of a closed bar or not. -/
  | receive (bar : ℕ)
deriving DecidableEq

abbrev Result : Op → Type
  | .begin => Bool
  | .buildBackfillQueue => Bool
  | .isCompleted => Bool
  | .findOldest => Option ℕ
  | .findNewest => Option ℕ
  | .clock => ℕ
  | .fetch _ _ => List ℕ
  | .createMany _ => ℕ
  | .receive _ => Bool
  | _ => Unit

/-- The queries and the requests can fail, what the process does by itself cannot. -/
def perform : (op : Op) → Delivery → Desk → Desk × Except String (Result op)
  | .begin, _, desk => ({ desk with running := true }, .ok !desk.running)
  | .buildBackfillQueue, delivery, desk => delivery.read desk !desk.completed
  | .finish, _, desk => ({ desk with running := false }, .ok ())
  | .isCompleted, _, desk => (desk, .ok desk.completed)
  | .complete, _, desk => ({ desk with completed := true }, .ok ())
  | .findOldest, delivery, desk => delivery.read desk desk.store.min?
  | .findNewest, delivery, desk => delivery.read desk desk.store.max?
  | .clock, _, desk => (desk, .ok desk.now)
  | .fetch range limit, delivery, desk => delivery.read desk (desk.answer limit range)
  | .createMany bars, delivery, desk =>
    delivery.write desk (desk.insert bars) (desk.fresh bars).length
  | .elapse, _, desk => ({ desk with now := desk.now + 1 }, .ok ())
  | .receive bar, _, desk => (desk, .ok (desk.listing ≤ bar ∧ bar < desk.now))

/-- The outside world of the service. -/
@[reducible] def feed : Service where
  State := Desk
  Op := Op
  Result := Result
  Failure := String
  Fate _ := Delivery
  perform := perform

abbrev Call (Value : Type) : Type := Program feed Value

def await (op : Op) : Call (Result op) := @Program.perform feed op

/-! ### The calls -/

/-- The bars of an answer that are closed when it has come. -/
def fetchKlines (range : Range) (limit : ℕ) : Call (List ℕ) := do
  let raw ← await (.fetch range limit)
  let now ← await .clock
  pure (raw.filter fun bar => bar < now)

/-- How many bars were new. -/
def writeKlines (candles : List ℕ) : Call ℕ :=
  if candles = [] then pure 0 else await (.createMany candles)

/-- The loop of `backfillHistory`, from the oldest stored bar back. -/
def historyPages (targetBars now : ℕ) : ℕ → Option ℕ → Call Unit
  | 0, _ => pure ()
  | pages + 1, oldest => do
    let candles ← fetchKlines ((oldest.map Range.before).getD .latest) 1000
    match candles with
    | [] => pure ()
    | first :: _ =>
      let _ ← writeKlines candles
      if candles.length < 1000 then pure ()
      else if first + targetBars ≤ now then pure ()
      else historyPages targetBars now pages (some first)

def backfillHistory (interval : Interval) : Call Unit := do
  let now ← await .clock
  let oldest ← await .findOldest
  if oldest.any fun bar => bar + interval.targetBars ≤ now then pure ()
  else historyPages interval.targetBars now 40 oldest

/-- The loop of `syncForward`, from the newest stored bar on. -/
def syncPages : ℕ → Call Unit
  | 0 => pure ()
  | pages + 1 => do
    let newest ← await .findNewest
    match newest with
    | none =>
      let candles ← fetchKlines .latest 1000
      let _ ← writeKlines candles
    | some bar =>
      let now ← await .clock
      let missing : ℤ := now - bar - 1
      if missing ≤ 0 then pure ()
      else
        let limit := min 1000 (missing.toNat + 1)
        let candles ← fetchKlines (.after bar) limit
        if candles = [] then pure ()
        else
          let _ ← writeKlines candles
          if candles.length < limit then pure () else syncPages pages

def syncForward : Call Unit := syncPages 10

def runJob (interval : Interval) : Call Unit := do
  backfillHistory interval
  syncForward
  await .complete

def runBackfill (interval : Interval) : Call Unit := do
  let mayRun ← await .begin
  if mayRun then
    andFinally (do
        let queued ← await .buildBackfillQueue
        if queued then recover (runJob interval) fun _ => pure ()
        else pure ())
      (await .finish)
  else pure ()

/-- `ensureSymbol`: the job on demand. -/
def ensureSymbol (interval : Interval) : Call Unit := do
  let completed ← await .isCompleted
  if completed then pure () else recover (runJob interval) fun _ => pure ()

/-- The refresh of an interval that is tracked across the universe. -/
def refreshCycle (interval : Interval) : Call Unit :=
  if interval.config.scope = .universe then
    recover (do
        let candles ← fetchKlines .latest 5
        let _ ← writeKlines candles)
      fun _ => pure ()
  else pure ()

def onMessage (interval : Interval) (bar : ℕ) : Call Unit :=
  if interval.config.stream then do
    let isClosed ← await (.receive bar)
    if isClosed then
      recover (do
          let _ ← writeKlines [bar])
        fun _ => pure ()
    else pure ()
  else pure ()

inductive Request where
  | backfill
  | ensure
  | refresh
  | message (bar : ℕ)
  | elapse

def Request.call (interval : Interval) : Request → Call Unit
  | backfill => runBackfill interval
  | ensure => ensureSymbol interval
  | refresh => refreshCycle interval
  | message bar => onMessage interval bar
  | elapse => await .elapse

/-- What a process finds when it starts: a symbol that is listed, and closed bars of it. -/
structure Start where
  listing : ℕ
  now : ℕ
  store : List ℕ
  listed : listing ≤ now
  closed : ∀ bar ∈ store, listing ≤ bar ∧ bar < now

def Start.desk (start : Start) : Desk := ⟨start.listing, start.now, start.store, false, false⟩

def klineSystem (interval : Interval) (start : Start) (requests : List Request) :
    System feed Unit :=
  ⟨⟨start.desk, []⟩, requests.map (Request.call interval)⟩

end GdslExchange.Market
