/-
This file models the indicator functions of `indicators.ts`. The latest value of a series comes
last, and a reading is missing, where the code has `NaN`, as long as there is not enough data.

Loops that write their readings to an array from some index on are modelled by the list of these
readings and what writing them makes of the array.
-/

import Mathlib.Algebra.BigOperators.Group.List.Basic
import Mathlib.Algebra.Order.Field.Basic
import Mathlib.Data.List.ReduceOption

namespace GdslExchange.Market

variable {K : Type} [Field K]

/-! ### Arrays -/

/-- What an array has at an index: nothing, where that is `NaN`, a hole or past the end. -/
def reading (readings : List (Option K)) (i : ℕ) : Option K := readings[i]?.join

/-- An array of `n` times `NaN` once readings have been written from an index on. It grows where
they go past its end. -/
def written (n start : ℕ) : List (Option K) → List (Option K)
  | [] => List.replicate n none
  | first :: rest =>
    List.replicate start none ++ (first :: rest) ++
      List.replicate (n - (start + (rest.length + 1))) none

/-- The last `period` of the values up to and including index `i`. -/
def windowAt {Item : Type} (values : List Item) (period i : ℕ) : List Item :=
  (values.take (i + 1)).drop (i + 1 - period)

/-- Last valid value. -/
def last (readings : List (Option K)) : Option K := readings.reduceOption.getLast?

/-! ### Averages -/

/-- Simple moving average. -/
def sma (values : List K) (period : ℕ) : List (Option K) :=
  values.mapIdx fun i _ =>
    if i < period - 1 then none else some ((windowAt values period i).sum / period)

/-- The values of `ema` from the seed on. -/
def emaFrom (period : ℕ) (values : List K) : List K :=
  let k : K := (2 : ℕ) / (period + 1)
  (values.drop period).scanl (fun prev value => value * k + prev * (1 - k))
    ((values.take period).sum / period)

/-- Exponential moving average. -/
def ema (values : List K) (period : ℕ) : List (Option K) :=
  if values.length < period then List.replicate values.length none
  else List.replicate (period - 1) none ++ (emaFrom period values).map some

/-- Wilder's average of the first `period` values, and after each of the others. -/
def wilder (period : ℕ) (values : List K) : List K :=
  (values.drop period).scanl (fun prev value => (prev * (period - 1) + value) / period)
    ((values.take period).sum / period)

/-- Linear regression slope over a window. Over a single value it is `0 / 0`. -/
def linRegSlope [DecidableEq K] (values : List K) (window : ℕ) : List (Option K) :=
  values.mapIdx fun i _ =>
    if i < window - 1 then none
    else
      let xs : List K := (List.range window).map Nat.cast
      let ys := windowAt values window i
      let spread := window * (xs.map (· ^ 2)).sum - xs.sum * xs.sum
      if spread = 0 then none
      else some ((window * (List.zipWith (· * ·) xs ys).sum - xs.sum * ys.sum) / spread)

structure Macd (K : Type) where
  macd : List (Option K)
  signal : List (Option K)
  hist : List (Option K)

/-- The valid values of the line are its last ones. -/
def macd (closes : List K) (fast slow signalPeriod : ℕ) : Macd K :=
  let line := List.zipWith (fun fast? slow? => fast?.bind fun fast => slow?.map (fast - ·))
    (ema closes fast) (ema closes slow)
  let validStart := line.findIdx Option.isSome
  let sub := line.reduceOption
  let sigSub := ema sub signalPeriod
  { macd := line
    signal := written closes.length validStart sigSub
    hist := written closes.length validStart
      (List.zipWith (fun value sig? => sig?.map (value - ·)) sub sigSub) }

structure Bands (K : Type) where
  upper : List (Option K)
  middle : List (Option K)
  lower : List (Option K)

def bollinger (sqrt : K → K) (closes : List K) (period : ℕ) (stdDev : K) : Bands K :=
  let middle := sma closes period
  let sd (i : ℕ) (mid : K) :=
    sqrt (((windowAt closes period i).map fun close => (close - mid) ^ 2).sum / period)
  { upper := middle.mapIdx fun i mid? => mid?.map fun mid => mid + stdDev * sd i mid
    middle
    lower := middle.mapIdx fun i mid? => mid?.map fun mid => mid - stdDev * sd i mid }

/-! ### Gains, ranges and moves -/

variable [LinearOrder K]

/-- A candle, as far as the analysis reads it. -/
structure AnalysisCandle (K : Type) [Zero K] [LinearOrder K] where
  open_ : K
  high : K
  low : K
  close : K
  low_pos : 0 < low
  low_le_open : low ≤ open_
  low_le_close : low ≤ close
  open_le_high : open_ ≤ high
  close_le_high : close ≤ high

def rsiReading (avgGain avgLoss : K) : K :=
  if avgLoss = 0 then (100 : ℕ) else (100 : ℕ) - (100 : ℕ) / (1 + avgGain / avgLoss)

/-- Relative Strength Index. -/
def rsi (closes : List K) (period : ℕ) : List (Option K) :=
  let diffs := List.zipWith (fun previous close => close - previous) closes closes.tail
  let gains := diffs.map fun diff => if 0 < diff then diff else 0
  let losses := diffs.map fun diff => if diff < 0 then -diff else 0
  written closes.length period
    (if closes.length < period + 1 then []
    else (List.zipWith rsiReading (wilder period gains) (wilder period losses)).map some)

/-- On-Balance Volume, of closes and volumes. -/
def obv (bars : List (K × K)) : List (Option K) :=
  match bars with
  | [] => [none]
  | first :: rest =>
    (((first :: rest).zip rest).scanl (fun sum pair =>
      if pair.1.1 < pair.2.1 then sum + pair.2.2
      else if pair.2.1 < pair.1.1 then sum - pair.2.2
      else sum) first.2).map some

section Bars

variable (bars : List (AnalysisCandle K)) (period : ℕ)

/-- What is read of each bar but the first and of the one before it. -/
def moves (read : AnalysisCandle K → AnalysisCandle K → K) : List K :=
  List.zipWith read bars bars.tail

def trueRange (previous bar : AnalysisCandle K) : K :=
  max (max (bar.high - bar.low) |bar.high - previous.close|) |bar.low - previous.close|

/-- Average True Range. Where there are fewer ranges than the period, the sum of the first is
`NaN`, and it is written past the end. -/
def atr : List (Option K) :=
  if bars.length < 2 then List.replicate bars.length none
  else
    written bars.length period
      (if bars.length < period + 1 then [none]
      else (wilder period (moves bars trueRange)).map some)

structure Stochastic (K : Type) where
  k : List (Option K)
  d : List (Option K)

def stochastic (kPeriod dPeriod : ℕ) : Stochastic K :=
  let k := bars.mapIdx fun i bar =>
    if i < kPeriod - 1 then none
    else
      match windowAt bars kPeriod i with
      | [] => none
      | first :: rest =>
        let highest := (rest.map AnalysisCandle.high).foldl max first.high
        let lowest := (rest.map AnalysisCandle.low).foldl min first.low
        let range := highest - lowest
        some (if range = 0 then ((50 : ℕ) : K) else (bar.close - lowest) / range * (100 : ℕ))
  { k
    d := List.zipWith (fun k? value? => k?.bind fun _ => value?) k
      (sma (k.map fun k? => k?.getD 0) dPeriod) }

def plusDM (previous bar : AnalysisCandle K) : K :=
  let upMove := bar.high - previous.high
  let downMove := previous.low - bar.low
  if downMove < upMove ∧ 0 < upMove then upMove else 0

def minusDM (previous bar : AnalysisCandle K) : K :=
  let upMove := bar.high - previous.high
  let downMove := previous.low - bar.low
  if upMove < downMove ∧ 0 < downMove then downMove else 0

/-- Wilder's sum of the first `period` values, and after each of the others. -/
def smooth (values : List K) : List K :=
  (values.drop period).scanl (fun sum value => sum - sum / period + value)
    (values.take period).sum

def diOf (dm tr : K) : K := if tr = 0 then 0 else dm / tr * (100 : ℕ)

def dxOf (pdi mdi : K) : K := if pdi + mdi = 0 then 0 else |pdi - mdi| / (pdi + mdi) * (100 : ℕ)

def plusDIs : List K :=
  List.zipWith diOf (smooth period (moves bars plusDM)) (smooth period (moves bars trueRange))

def minusDIs : List K :=
  List.zipWith diOf (smooth period (moves bars minusDM)) (smooth period (moves bars trueRange))

def dxs : List K := List.zipWith dxOf (plusDIs bars period) (minusDIs bars period)

structure Adx (K : Type) where
  adx : List (Option K)
  plusDI : List (Option K)
  minusDI : List (Option K)

/-- Average Directional Index. -/
def adx : Adx K :=
  let none? := List.replicate bars.length none
  if bars.length < period * 2 + 1 then ⟨none?, none?, none?⟩
  else
    { adx := written bars.length (period + period) ((wilder period (dxs bars period)).map some)
      plusDI := written bars.length period ((plusDIs bars period).map some)
      minusDI := written bars.length period ((minusDIs bars period).map some) }

end Bars

/-! ### The last average -/

omit [LinearOrder K] in
/-- The last average is that of the last `period` values. -/
theorem last_sma {values : List K} {period : ℕ} (positive : 0 < period)
    (enough : period ≤ values.length) :
    last (sma values period) =
      some ((values.drop (values.length - period)).sum / period) := by
  obtain ⟨earlier, value, rfl⟩ : ∃ earlier value, values = earlier ++ [value] :=
    ⟨_, _, (List.dropLast_append_getLast (List.ne_nil_of_length_pos (by omega))).symm⟩
  have length : (earlier ++ [value]).length = earlier.length + 1 := List.length_append
  have notEarly : ¬ earlier.length < period - 1 := by omega
  unfold last sma windowAt
  rw [List.mapIdx_append, List.reduceOption_append]
  simp only [List.mapIdx_cons, List.mapIdx_nil, Nat.zero_add, if_neg notEarly, length,
    List.take_of_length_le length.le, List.reduceOption_cons_of_some, List.reduceOption_nil]
  exact List.getLast?_concat

end GdslExchange.Market
