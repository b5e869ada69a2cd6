/-
This file models `buildLongHorizon` of `marketContextMath`, the statistics of a year of daily
candles. The drawdown that one pass over the closes finds is the greatest over all pairs of days,
and what is older than the last 366 candles changes nothing but their number.
-/

import GdslExchange.Market.Indicators
import Mathlib.Analysis.SpecialFunctions.Log.Basic
import Mathlib.Analysis.SpecialFunctions.Sqrt
import Mathlib.Tactic.Linarith

namespace GdslExchange.Market

variable {K : Type} [Field K] [LinearOrder K] [IsStrictOrderedRing K]

inductive Trend where
  | bull
  | bear
  | range
deriving DecidableEq

structure LongHorizon (K : Type) where
  bars : ℕ
  coveredDays : ℕ
  high52w : K
  low52w : K
  pctFromHigh52w : K
  pctFromLow52w : K
  rangePosition : K
  return30dPct : Option K
  return90dPct : Option K
  return365dPct : Option K
  sma50 : Option K
  sma200 : Option K
  goldenCross : Option Bool
  annualizedVolPct : Option K
  maxDrawdown1yPct : K
  trend : Trend

def pctChange (from? : Option K) (spot : K) : Option K :=
  from?.bind fun price => if price ≤ 0 then none else some ((spot - price) / price * (100 : ℕ))

/-- The annualised volatility of the daily log returns. -/
def annualizedVol (log sqrt : K → K) (closes : List K) : Option K :=
  if closes.length < 30 then none
  else
    let rets := (closes.zip closes.tail).filterMap fun days =>
      if 0 < days.1 then some (log (days.2 / days.1)) else none
    if rets.length < 20 then none
    else
      let mean := rets.sum / rets.length
      let variance := (rets.map fun ret => (ret - mean) ^ 2).sum / ((rets.length : K) - 1)
      some (sqrt variance * sqrt (365 : ℕ) * (100 : ℕ))

/-- The peak so far and the deepest drawdown so far, after one more close. -/
def trackPeak (tracked : K × K) (close : K) : K × K :=
  let peak := if tracked.1 < close then close else tracked.1
  if 0 < peak then
    let dd := (peak - close) / peak * (100 : ℕ)
    (peak, if tracked.2 < dd then dd else tracked.2)
  else
    (peak, tracked.2)

def maxDrawdown (first : K) (closes : List K) : K := (closes.foldl trackPeak (first, 0)).2

def trendOf (aboveSma200 goldenCross : Option Bool) (rangePosition : K) : Trend :=
  if aboveSma200 = some true ∧ goldenCross ≠ some false ∧ 1 / (2 : ℕ) < rangePosition then .bull
  else if aboveSma200 = some false ∧ goldenCross ≠ some true ∧ rangePosition < (2 : ℕ) / (5 : ℕ) then .bear
  else .range

/-- The statistics, given the candles of the last year. -/
def horizonOf (log sqrt : K → K) (daily : List (AnalysisCandle K)) (first : AnalysisCandle K)
    (later : List (AnalysisCandle K)) : LongHorizon K :=
  let closes := (first :: later).map AnalysisCandle.close
  let spot := (later.getLast?.getD first).close
  let high52w := (later.map AnalysisCandle.high).foldl max first.high
  let low52w := (later.map AnalysisCandle.low).foldl min first.low
  let span := high52w - low52w
  let allCloses := daily.map AnalysisCandle.close
  let sma50 := if 50 ≤ daily.length then last (sma allCloses 50) else none
  let sma200 := if 200 ≤ daily.length then last (sma allCloses 200) else none
  let rangePosition := if 0 < span then (spot - low52w) / span else 1 / (2 : ℕ)
  let aboveSma200 := sma200.map fun average => decide (average < spot)
  let goldenCross := sma50.bind fun fast => sma200.map fun slow => decide (slow < fast)
  { bars := daily.length
    coveredDays := (first :: later).length
    high52w
    low52w
    pctFromHigh52w := if 0 < high52w then (spot - high52w) / high52w * (100 : ℕ) else 0
    pctFromLow52w := if 0 < low52w then (spot - low52w) / low52w * (100 : ℕ) else 0
    rangePosition := min 1 (max 0 rangePosition)
    return30dPct := pctChange (allCloses.reverse[30]?) spot
    return90dPct := pctChange (allCloses.reverse[90]?) spot
    return365dPct := pctChange (allCloses.reverse[365]?) spot
    sma50
    sma200
    goldenCross
    annualizedVolPct := annualizedVol log sqrt closes
    maxDrawdown1yPct := maxDrawdown first.close closes
    trend := trendOf aboveSma200 goldenCross rangePosition }

def buildLongHorizon (log sqrt : K → K) (daily : List (AnalysisCandle K)) :
    Option (LongHorizon K) :=
  if daily.length < 30 then none
  else
    match daily.drop (daily.length - 365) with
    | [] => none
    | first :: later => some (horizonOf log sqrt daily first later)

/-! ### The deepest drawdown -/

/-- The drop, in percent, from one of the closes to itself or to a later one. -/
def IsDrop (closes : List K) (drop : K) : Prop :=
  ∃ (i j : ℕ) (peak close : K), i ≤ j ∧ closes[i]? = some peak ∧ closes[j]? = some close ∧
    drop = (100 : ℕ) * (peak - close) / peak

omit [LinearOrder K] [IsStrictOrderedRing K] in
theorem isDrop_concat {closes : List K} {close drop : K} :
    IsDrop (closes ++ [close]) drop ↔
      IsDrop closes drop ∨ ∃ peak ∈ closes ++ [close], drop = 100 * (peak - close) / peak := by
  constructor
  · rintro ⟨i, j, peak, final, ordered, isPeak, isFinal, rfl⟩
    obtain earlier | latest := Nat.lt_or_ge j closes.length
    · rw [List.getElem?_append_left earlier] at isFinal
      rw [List.getElem?_append_left (ordered.trans_lt earlier)] at isPeak
      exact .inl ⟨i, j, peak, final, ordered, isPeak, isFinal, rfl⟩
    · rw [List.getElem?_append_right latest, List.getElem?_singleton] at isFinal
      split at isFinal
      · cases isFinal
        exact .inr ⟨peak, List.mem_of_getElem? isPeak, rfl⟩
      · nomatch isFinal
  · rintro (⟨i, j, peak, final, ordered, isPeak, isFinal, rfl⟩ | ⟨peak, member, rfl⟩)
    · have within := (List.getElem?_eq_some_iff.mp isFinal).1
      refine ⟨i, j, peak, final, ordered, ?_, ?_, rfl⟩
      · rw [List.getElem?_append_left (ordered.trans_lt within), isPeak]
      · rw [List.getElem?_append_left within, isFinal]
    · obtain ⟨i, isPeak⟩ := List.mem_iff_getElem?.mp member
      have bound := (List.getElem?_eq_some_iff.mp isPeak).1
      rw [List.length_append, List.length_singleton] at bound
      exact ⟨i, closes.length, peak, close, Nat.lt_succ_iff.mp bound, isPeak,
        List.getElem?_concat_length, rfl⟩

/-- What the pass has tracked once it has seen those closes. -/
structure Tracks (closes : List K) (tracked : K × K) : Prop where
  peak : IsGreatest {close | close ∈ closes} tracked.1
  drawdown : IsGreatest {drop | IsDrop closes drop} tracked.2

theorem tracks_step {closes : List K} {close : K} {tracked : K × K}
    (positive : ∀ seen ∈ closes ++ [close], 0 < seen) (tracks : Tracks closes tracked) :
    Tracks (closes ++ [close]) (trackPeak tracked close) := by
  have peaks : IsGreatest {seen | seen ∈ closes ++ [close]} (max tracked.1 close) := by
    have isInsert : {seen | seen ∈ closes ++ [close]} = insert close {seen | seen ∈ closes} := by
      ext seen
      simp [or_comm]
    rw [isInsert, max_comm]
    exact tracks.peak.insert close
  have peak_pos := positive _ peaks.1
  have drops : IsGreatest ((fun peak => 100 * (peak - close) / peak) ''
      {seen | seen ∈ closes ++ [close]})
      ((max tracked.1 close - close) / max tracked.1 close * 100) := by
    refine ⟨⟨_, peaks.1, by ring⟩, ?_⟩
    rintro _ ⟨peak, member, rfl⟩
    have close_pos := positive close (List.mem_append_right _ (List.mem_singleton_self _))
    have lower : close / max tracked.1 close ≤ close / peak :=
      div_le_div_of_nonneg_left close_pos.le (positive peak member) (peaks.2 member)
    have ofPeak : 100 * (peak - close) / peak = 100 * (1 - close / peak) := by
      rw [mul_div_assoc, sub_div, div_self (positive peak member).ne']
    have ofTop : (max tracked.1 close - close) / max tracked.1 close * 100 =
        100 * (1 - close / max tracked.1 close) := by
      rw [sub_div, div_self peak_pos.ne', mul_comm]
    show 100 * (peak - close) / peak ≤ _
    rw [ofPeak, ofTop]
    linarith
  have step : trackPeak tracked close = (max tracked.1 close,
      max tracked.2 ((max tracked.1 close - close) / max tracked.1 close * 100)) := by
    unfold trackPeak
    simp only [← max_def_lt, if_pos peak_pos, Nat.cast_ofNat]
  rw [step]
  refine ⟨peaks, ?_⟩
  have isUnion : {drop | IsDrop (closes ++ [close]) drop} = {drop | IsDrop closes drop} ∪
      (fun peak => 100 * (peak - close) / peak) '' {seen | seen ∈ closes ++ [close]} := by
    ext drop
    refine isDrop_concat.trans (or_congr Iff.rfl ?_)
    exact exists_congr fun peak => and_congr Iff.rfl eq_comm
  rw [isUnion]
  exact tracks.drawdown.union drops

/-- The pass finds the deepest drawdown of all. -/
theorem isGreatest_maxDrawdown {first : K} {later : List K}
    (positive : ∀ close ∈ first :: later, 0 < close) :
    IsGreatest {drop | IsDrop (first :: later) drop} (maxDrawdown first (first :: later)) := by
  have start : trackPeak (first, 0) first = (first, 0) := by
    unfold trackPeak
    simp
  have run : Tracks (first :: later) ((first :: later).foldl trackPeak (first, 0)) := by
    rw [List.foldl_cons, start]
    induction later using List.reverseRecOn with
    | nil =>
      refine ⟨by simp, ?_⟩
      have only (drop : K) : IsDrop [first] drop ↔ drop = 0 := by
        refine (@isDrop_concat K _ [] first drop).trans ?_
        simp [IsDrop]
      simp [only]
    | append_singleton later close inductionHypothesis =>
      rw [List.foldl_append]
      exact tracks_step positive
        (inductionHypothesis fun seen member => positive seen (List.mem_append_left _ member))
  exact run.drawdown

/-! ### The year and what is older -/

section Older

omit [IsStrictOrderedRing K]

variable {daily : List (AnalysisCandle K)} {old : ℕ} (kept : 366 ≤ daily.length - old)
include kept

theorem closes_drop {back : ℕ} (recent : back < 366) :
    ((daily.drop old).map AnalysisCandle.close).reverse[back]? =
      (daily.map AnalysisCandle.close).reverse[back]? := by
  rw [List.map_drop, List.reverse_drop, List.getElem?_take_of_lt]
  rw [List.length_map]
  omega

theorem last_sma_drop {period : ℕ} (positive : 0 < period) (short : period ≤ 366) :
    last (sma ((daily.drop old).map AnalysisCandle.close) period) =
      last (sma (daily.map AnalysisCandle.close) period) := by
  rw [last_sma positive (by rw [List.length_map, List.length_drop]; omega),
    last_sma positive (by rw [List.length_map]; omega), List.map_drop, List.drop_drop,
    List.length_drop, List.length_map]
  congr 4
  omega

theorem horizonOf_drop (log sqrt : K → K) (first : AnalysisCandle K)
    (later : List (AnalysisCandle K)) :
    horizonOf log sqrt (daily.drop old) first later =
      { horizonOf log sqrt daily first later with bars := daily.length - old } := by
  unfold horizonOf
  simp only [List.length_drop, closes_drop kept (by omega : 30 < 366),
    closes_drop kept (by omega : 90 < 366), closes_drop kept (by omega : 365 < 366),
    last_sma_drop kept (by omega : 0 < 50) (by omega),
    last_sma_drop kept (by omega : 0 < 200) (by omega),
    if_pos (by omega : 50 ≤ daily.length - old), if_pos (by omega : 50 ≤ daily.length),
    if_pos (by omega : 200 ≤ daily.length - old), if_pos (by omega : 200 ≤ daily.length)]

end Older

/-- What the statistics of a year say of its candles, given the latest close. -/
structure Says (year : List (AnalysisCandle K)) (spot : K) (horizon : LongHorizon K) : Prop where
  high : IsGreatest {high | high ∈ year.map AnalysisCandle.high} horizon.high52w
  low : IsLeast {low | low ∈ year.map AnalysisCandle.low} horizon.low52w
  drawdown : IsGreatest {drop | IsDrop (year.map AnalysisCandle.close) drop}
    horizon.maxDrawdown1yPct
  position : horizon.high52w - horizon.low52w ≠ 0 →
    horizon.rangePosition = (spot - horizon.low52w) / (horizon.high52w - horizon.low52w)
  position_mem : (spot - horizon.low52w) / (horizon.high52w - horizon.low52w) ∈ Set.Icc 0 1
  fromHigh : horizon.pctFromHigh52w ≤ 0
  fromLow : 0 ≤ horizon.pctFromLow52w

/-- The latest close lies between the lowest and the highest of its year. -/
theorem says_horizonOf (log sqrt : K → K) (daily : List (AnalysisCandle K))
    (first : AnalysisCandle K) (later : List (AnalysisCandle K)) :
    Says (first :: later) (later.getLast?.getD first).close
      (horizonOf log sqrt daily first later) := by
  generalize isHorizon : horizonOf log sqrt daily first later = horizon
  generalize isLatest : later.getLast?.getD first = latest
  have member : latest ∈ first :: later := by
    rw [← isLatest]
    cases isLast : later.getLast? with
    | none => exact List.mem_cons_self
    | some latest => exact List.mem_cons_of_mem _ (List.mem_of_getLast? isLast)
  have high : IsGreatest {high | high ∈ (first :: later).map AnalysisCandle.high}
      horizon.high52w := by
    rw [← isHorizon]
    exact List.max?_eq_some_iff.mp List.max?_cons'
  have low : IsLeast {low | low ∈ (first :: later).map AnalysisCandle.low} horizon.low52w := by
    rw [← isHorizon]
    exact List.min?_eq_some_iff.mp List.min?_cons'
  have below : latest.close ≤ horizon.high52w :=
    latest.close_le_high.trans (high.2 (List.mem_map_of_mem member))
  have above : horizon.low52w ≤ latest.close :=
    (low.2 (List.mem_map_of_mem member)).trans latest.low_le_close
  have position_mem : (latest.close - horizon.low52w) / (horizon.high52w - horizon.low52w) ∈
      Set.Icc 0 1 :=
    ⟨div_nonneg (sub_nonneg.mpr above) (sub_nonneg.mpr (above.trans below)),
      div_le_one_of_le₀ (sub_le_sub_right below _) (sub_nonneg.mpr (above.trans below))⟩
  refine ⟨high, low, ?_, fun spread => ?_, position_mem, ?_, ?_⟩
  · have positive : ∀ close ∈ (first :: later).map AnalysisCandle.close, 0 < close := by
      intro close isClose
      obtain ⟨candle, -, rfl⟩ := List.mem_map.mp isClose
      exact candle.low_pos.trans_le candle.low_le_close
    rw [← isHorizon]
    exact isGreatest_maxDrawdown positive
  · have positive := (sub_nonneg.mpr (above.trans below)).lt_of_ne' spread
    have isPosition : horizon.rangePosition = min 1 (max 0
        (if 0 < horizon.high52w - horizon.low52w then
          (latest.close - horizon.low52w) / (horizon.high52w - horizon.low52w) else 1 / 2)) := by
      rw [← isHorizon, ← isLatest]
      rfl
    rw [isPosition, if_pos positive, max_eq_right position_mem.1, min_eq_right position_mem.2]
  · have isFromHigh : horizon.pctFromHigh52w = if 0 < horizon.high52w then
        (latest.close - horizon.high52w) / horizon.high52w * 100 else 0 := by
      rw [← isHorizon, ← isLatest]
      rfl
    rw [isFromHigh]
    split
    next positive =>
      exact mul_nonpos_of_nonpos_of_nonneg
        (div_nonpos_of_nonpos_of_nonneg (sub_nonpos.mpr below) positive.le) (by norm_num)
    next => exact le_rfl
  · have isFromLow : horizon.pctFromLow52w = if 0 < horizon.low52w then
        (latest.close - horizon.low52w) / horizon.low52w * 100 else 0 := by
      rw [← isHorizon, ← isLatest]
      rfl
    rw [isFromLow]
    split
    next positive =>
      exact mul_nonneg (div_nonneg (sub_nonneg.mpr above) positive.le) (by norm_num)
    next => exact le_rfl

theorem buildLongHorizon_says (log sqrt : K → K) {daily : List (AnalysisCandle K)}
    (enough : 30 ≤ daily.length) :
    ∃ horizon latest, buildLongHorizon log sqrt daily = some horizon ∧
      daily.getLast? = some latest ∧
      Says (daily.drop (daily.length - 365)) latest.close horizon ∧
      ∀ old ≤ daily.length - 366, buildLongHorizon log sqrt (daily.drop old) =
        some { horizon with bars := daily.length - old } := by
  have isLatest : daily.getLast? = (daily.drop (daily.length - 365)).getLast? := by
    rw [List.getLast?_drop, if_neg (by omega)]
  rw [isLatest]
  cases isYear : daily.drop (daily.length - 365) with
  | nil =>
    have length := congrArg List.length isYear
    rw [List.length_drop, List.length_nil] at length
    omega
  | cons first later =>
    have built : buildLongHorizon log sqrt daily = some (horizonOf log sqrt daily first later) := by
      unfold buildLongHorizon
      rw [if_neg (by omega), isYear]
    refine ⟨_, _, built, List.getLast?_cons, says_horizonOf log sqrt daily first later,
      fun old bound => ?_⟩
    obtain rfl | older := Nat.eq_zero_or_pos old
    · rw [List.drop_zero, built]
      rfl
    · rw [← horizonOf_drop (by omega)]
      unfold buildLongHorizon
      rw [List.length_drop, if_neg (by omega), List.drop_drop,
        (by omega : old + (daily.length - old - 365) = daily.length - 365), isYear]

/-- Forty days at one price. -/
def flatDays : List (AnalysisCandle ℝ) :=
  List.replicate 40 ⟨1, 1, 1, 1, one_pos, le_rfl, le_rfl, le_rfl, le_rfl⟩

theorem buildLongHorizon_says_flatDays :
    30 ≤ flatDays.length ∧ ∃ horizon latest,
      buildLongHorizon Real.log Real.sqrt flatDays = some horizon ∧
      flatDays.getLast? = some latest ∧
      Says (flatDays.drop (flatDays.length - 365)) latest.close horizon ∧
      ∀ old ≤ flatDays.length - 366, buildLongHorizon Real.log Real.sqrt (flatDays.drop old) =
        some { horizon with bars := flatDays.length - old } := by
  have enough : 30 ≤ flatDays.length := by
    unfold flatDays
    rw [List.length_replicate]
    norm_num
  exact ⟨enough, buildLongHorizon_says _ _ enough⟩

end GdslExchange.Market
