/-
This file models the backtest. A profit is added up over the day of its bar, and the sum is put among
the returns when the next day begins; nothing is put there for the last day, or for what is closed
after it.
-/

import GdslExchange.Market.Indicators
import Mathlib.Analysis.SpecialFunctions.Sqrt
import Mathlib.Algebra.BigOperators.Group.List.Lemmas

namespace GdslExchange.Backtest

open Market

variable {K : Type} [Field K] [LinearOrder K]

/-- A kline, with the day of its opening time. -/
structure Bar (K : Type) [Zero K] [LinearOrder K] where
  candle : AnalysisCandle K
  volume : K
  day : ℕ

/-- The bars of a backtest, by their opening times. -/
structure History (K : Type) [Zero K] [LinearOrder K] where
  bars : List (Bar K)
  enough : 50 ≤ bars.length
  ordered : bars.Pairwise fun first second => first.day ≤ second.day

/-! ### Scores -/

/-- So many units of the last of some decimal places. -/
def decimal (units places : ℕ) : K := units / (10 : ℕ) ^ places

/-- A step upwards, or one downwards, or none. -/
def nudge (up down : Prop) [Decidable up] [Decidable down] (step : K) : K :=
  if up then step else if down then -step else 0

/-- What is read of two indicators, where both are there. -/
def both (first? second? : Option K) (read : K → K → K) : K :=
  match first?, second? with
  | some first, some second => read first second
  | _, _ => 0

variable (sqrt : K → K) (bars : List (Bar K))

def closes : List K := bars.map fun bar => bar.candle.close

def volumes : List K := bars.map Bar.volume

/-- Where the bands are one line, the position between them is `NaN`. -/
def scoreBar (i : ℕ) : K :=
  let close := (closes bars)[i]?.getD 0
  let hist := (macd (closes bars) 12 26 9).hist
  let bands := bollinger sqrt (closes bars) 20 (2 : ℕ)
  let avgVol := (((volumes bars).take i).drop (i - 20)).sum / (20 : ℕ)
  let volRatio := if 0 < avgVol then (volumes bars)[i]?.getD 0 / avgVol else 1
  max 0 (min 1 (decimal 5 1 +
    both (reading (ema (closes bars) 20) i) (reading (ema (closes bars) 50) i) (fun fast slow =>
      nudge (decimal 1001 3 < fast / slow) (fast / slow < decimal 999 3) (decimal 7 2)) +
    ((reading (rsi (closes bars) 14) i).map fun value =>
      nudge (value < ((35 : ℕ) : K)) (((65 : ℕ) : K) < value) (decimal 8 2)).getD 0 +
    both (reading hist i) (reading hist (i - 1)) (fun value previous =>
      nudge (0 < value ∧ previous < value) (value < 0 ∧ value < previous) (decimal 5 2)) +
    both (reading bands.upper i) (reading bands.lower i) (fun upper lower =>
      if upper = lower then 0
      else nudge ((close - lower) / (upper - lower) < decimal 1 1)
        (decimal 9 1 < (close - lower) / (upper - lower)) (decimal 5 2)) +
    ((reading (linRegSlope (closes bars) 5) i).map fun slope =>
      nudge (decimal 15 1 < volRatio ∧ 0 < slope) (decimal 15 1 < volRatio ∧ slope < 0)
        (decimal 5 2)).getD 0))

/-! ### The simulation -/

/-- What the simulation reads of a bar. -/
structure Signal (K : Type) where
  index : ℕ
  price : K
  day : ℕ
  pUp : K
  atr14 : Option K

/-- The bars from index 50 on, but for the last one. -/
def signals : List (Signal K) :=
  (bars.mapIdx fun i bar =>
    { index := i
      price := bar.candle.close
      day := bar.day
      pUp := scoreBar sqrt bars i
      atr14 := reading (atr (bars.map Bar.candle) 14) i }).dropLast.drop 50

structure Position (K : Type) where
  entryPrice : K
  entryIdx : ℕ

/-- A trade, with the day on which it was closed. -/
structure Trade (K : Type) where
  pnl : K
  bars : ℕ
  closedOn : ℕ

/-- The returns stand with the days they are of. -/
structure Simulation (K : Type) where
  position : Option (Position K)
  trades : List (Trade K)
  dailyReturns : List (ℕ × K)
  dayPnl : K
  lastDay : ℕ

inductive Action where
  | enter
  | exit
  | stay
deriving DecidableEq

section Simulating

variable (buy sell : K)

def act (position : Option (Position K)) (signal : Signal K) : Action :=
  if ∃ held ∈ position, ∃ range ∈ signal.atr14, signal.price < held.entryPrice - (2 : ℕ) * range then
    .exit
  else if buy < signal.pUp ∧ position.isNone then .enter
  else if signal.pUp < sell ∧ position.isSome then .exit
  else .stay

def moved (position : Option (Position K)) (signal : Signal K) : Option (Position K) :=
  match act buy sell position signal with
  | .enter => some ⟨signal.price, signal.index⟩
  | .exit => none
  | .stay => position

/-- The trades that closing a position makes. -/
def closing (position : Option (Position K)) (price : K) (index day : ℕ) : List (Trade K) :=
  position.toList.map fun held => ⟨price - held.entryPrice, index - held.entryIdx, day⟩

def Simulation.turn (simulation : Simulation K) (day : ℕ) : Simulation K :=
  if day = simulation.lastDay then simulation
  else
    { simulation with
      dailyReturns := simulation.dailyReturns ++ [(simulation.lastDay, simulation.dayPnl)]
      dayPnl := 0
      lastDay := day }

def step (before : Simulation K) (signal : Signal K) : Simulation K :=
  let turned := before.turn signal.day
  let closed := if act buy sell before.position signal = .exit then
    closing before.position signal.price signal.index signal.day else []
  { turned with
    position := moved buy sell before.position signal
    trades := before.trades ++ closed
    dayPnl := turned.dayPnl + (closed.map Trade.pnl).sum }

def start : Simulation K := ⟨none, [], [], 0, (bars.head?.map Bar.day).getD 0⟩

/-- The simulation once the last bar has been passed. -/
def simulated : Simulation K := (signals sqrt bars).foldl (step buy sell) (start bars)

/-- What is passed to `computeMetrics`. -/
structure Outcome (K : Type) where
  dailyReturns : List (ℕ × K)
  trades : List (Trade K)

def run (history : History K) : Outcome K :=
  let simulation := simulated sqrt history.bars buy sell
  { dailyReturns := simulation.dailyReturns
    trades := simulation.trades ++ (history.bars.getLast?.map fun bar =>
      closing simulation.position bar.candle.close (history.bars.length - 1) bar.day).getD [] }

end Simulating

/-! ### The property and the condition -/

/-- The profit of the trades that were closed on a day. -/
def pnlOn (trades : List (Trade K)) (day : ℕ) : K :=
  ((trades.filter fun trade => trade.closedOn = day).map Trade.pnl).sum

/-- The returns add up to the profits, and the profit of each trade is in the return of its day. -/
structure AddsUp (outcome : Outcome K) : Prop where
  total : (outcome.dailyReturns.map Prod.snd).sum = (outcome.trades.map Trade.pnl).sum
  booked : ∀ trade ∈ outcome.trades,
    (trade.closedOn, pnlOn outcome.trades trade.closedOn) ∈ outcome.dailyReturns

/-- No position is held when the last simulated day begins, and no bar of that day is to be bought. -/
def LastDayQuiet (signals : List (Signal K)) (buy sell : K) : Prop :=
  ∀ last ∈ signals.getLast?,
    (signals.takeWhile fun signal => signal.day ≠ last.day).foldl (moved buy sell) none = none ∧
      ∀ signal ∈ signals.dropWhile fun signal => signal.day ≠ last.day, ¬ buy < signal.pUp

/-! ### The books -/

section Books

variable {K : Type} [Field K] {simulation : Simulation K}

/-- What is kept of the trades so far: those of days that are over are in the returns, and those of
the present day in the sum of the day. -/
structure Books (simulation : Simulation K) : Prop where
  flushed : ∀ entry ∈ simulation.dailyReturns, entry.1 < simulation.lastDay ∧
    entry.2 = pnlOn simulation.trades entry.1
  booked : ∀ trade ∈ simulation.trades, trade.closedOn = simulation.lastDay ∨
    trade.closedOn ∈ simulation.dailyReturns.map Prod.fst
  dayPnl : simulation.dayPnl = pnlOn simulation.trades simulation.lastDay
  total : (simulation.dailyReturns.map Prod.snd).sum + simulation.dayPnl =
    (simulation.trades.map Trade.pnl).sum

theorem pnlOn_append (trades more : List (Trade K)) (day : ℕ) :
    pnlOn (trades ++ more) day = pnlOn trades day + pnlOn more day := by
  unfold pnlOn
  rw [List.filter_append, List.map_append, List.sum_append]

theorem pnlOn_eq_zero {trades : List (Trade K)} {day : ℕ}
    (none : ∀ trade ∈ trades, trade.closedOn ≠ day) : pnlOn trades day = 0 := by
  unfold pnlOn
  rw [List.filter_eq_nil_iff.mpr fun trade member => by simpa using none trade member]
  rfl

theorem pnlOn_of_closedOn {trades : List (Trade K)} {day : ℕ}
    (all : ∀ trade ∈ trades, trade.closedOn = day) :
    pnlOn trades day = (trades.map Trade.pnl).sum := by
  unfold pnlOn
  rw [List.filter_eq_self.mpr fun trade member => by simpa using all trade member]

/-- The trades of the days in the books. -/
theorem Books.closedOn_le (books : Books simulation) :
    ∀ trade ∈ simulation.trades, trade.closedOn ≤ simulation.lastDay := by
  intro trade member
  obtain today | flushed := books.booked trade member
  · exact today.le
  · obtain ⟨entry, isEntry, same⟩ := List.mem_map.mp flushed
    exact same ▸ (books.flushed entry isEntry).1.le

theorem books_turn {day : ℕ} (books : Books simulation) (later : simulation.lastDay ≤ day) :
    Books (simulation.turn day) ∧ (simulation.turn day).lastDay = day := by
  unfold Simulation.turn
  split_ifs with same
  · exact ⟨books, same.symm⟩
  · have begins : simulation.lastDay < day := lt_of_le_of_ne later (Ne.symm same)
    refine ⟨⟨fun entry member => ?_, fun trade member => ?_, ?_, ?_⟩, rfl⟩
    · obtain old | new := List.mem_append.mp member
      · exact ⟨(books.flushed entry old).1.trans begins, (books.flushed entry old).2⟩
      · rw [List.mem_singleton.mp new]
        exact ⟨begins, books.dayPnl⟩
    · rw [List.map_append, List.mem_append]
      refine Or.inr ((books.booked trade member).symm.imp_right fun today => ?_)
      rw [today]
      exact List.mem_singleton_self _
    · refine (pnlOn_eq_zero fun trade member => ?_).symm
      exact ((books.closedOn_le trade member).trans_lt begins).ne
    · rw [List.map_append, List.sum_append, add_zero]
      simpa using books.total

/-- Trades of the present day are closed. -/
theorem books_closed {closed : List (Trade K)} (books : Books simulation)
    (position : Option (Position K)) (today : ∀ trade ∈ closed, trade.closedOn = simulation.lastDay) :
    Books { simulation with
      position
      trades := simulation.trades ++ closed
      dayPnl := simulation.dayPnl + (closed.map Trade.pnl).sum } := by
  refine ⟨fun entry member => ?_, fun trade member => ?_, ?_, ?_⟩
  · obtain ⟨before, isPnl⟩ := books.flushed entry member
    refine ⟨before, ?_⟩
    rw [pnlOn_append, pnlOn_eq_zero fun trade isClosed => (today trade isClosed).trans_ne before.ne',
      add_zero, isPnl]
  · exact (List.mem_append.mp member).elim (books.booked trade) fun isClosed =>
      Or.inl (today trade isClosed)
  · rw [pnlOn_append, pnlOn_of_closedOn today, books.dayPnl]
  · rw [← add_assoc, books.total, List.map_append, List.sum_append]

theorem closedOn_closing {position : Option (Position K)} {price : K} {index day : ℕ}
    {trade : Trade K} (member : trade ∈ closing position price index day) : trade.closedOn = day := by
  obtain ⟨held, -, rfl⟩ := List.mem_map.mp member
  rfl

variable [LinearOrder K] {buy sell : K} {signal : Signal K}

theorem books_step (books : Books simulation) (later : simulation.lastDay ≤ signal.day) :
    Books (step buy sell simulation signal) ∧ (step buy sell simulation signal).lastDay = signal.day := by
  obtain ⟨turned, isDay⟩ := books_turn books later
  have same : simulation.trades = (simulation.turn signal.day).trades := by
    unfold Simulation.turn
    split <;> rfl
  refine ⟨?_, isDay⟩
  unfold step
  rw [same]
  refine books_closed turned _ fun trade member => ?_
  split_ifs at member
  · exact (closedOn_closing member).trans isDay.symm
  · cases member

/-- A position is held, or one was closed on the present day. -/
def Touched (day : ℕ) (simulation : Simulation K) : Prop :=
  simulation.position ≠ none ∨ ∃ trade ∈ simulation.trades, trade.closedOn = day

/-- What is bought when nothing is held, and what is sold, is so by the action. -/
theorem act_cases (position : Option (Position K)) :
    match act buy sell position signal with
    | .enter => buy < signal.pUp
    | .exit => position ≠ none
    | .stay => position = none → ¬ buy < signal.pUp := by
  unfold act
  rcases position with _ | held
  · by_cases buys : buy < signal.pUp <;> simp [buys]
  · split_ifs <;> simp_all

/-- A bar touches its day if it is to be bought, or if a position is held when it comes. -/
theorem touched_step : Touched signal.day (step buy sell simulation signal) ↔
    Touched signal.day simulation ∨ buy < signal.pUp := by
  have cases := @act_cases _ _ _ buy sell signal simulation.position
  unfold Touched step moved
  dsimp only
  cases action : act buy sell simulation.position signal with
  | enter =>
    rw [action] at cases
    exact iff_of_true (Or.inl (Option.some_ne_none _)) (Or.inr cases)
  | exit =>
    rw [action] at cases
    obtain ⟨held, isHeld⟩ := Option.ne_none_iff_exists'.mp cases
    refine iff_of_true (Or.inr ?_) (Or.inl (Or.inl cases))
    rw [isHeld]
    exact ⟨_, List.mem_append_right _ List.mem_cons_self, rfl⟩
  | stay =>
    rw [action] at cases
    rw [if_neg (by decide), List.append_nil]
    exact ⟨Or.inl, fun touched => touched.elim id fun buys => Or.inl fun none => cases none buys⟩

/-! ### Runs -/

/-- What a run over bars, from a day that none of them precedes, makes of the books. -/
theorem books_foldl {signals : List (Signal K)} (books : Books simulation)
    (later : ∀ signal ∈ signals, simulation.lastDay ≤ signal.day)
    (ordered : signals.Pairwise fun first second => first.day ≤ second.day) :
    Books (signals.foldl (step buy sell) simulation) ∧
      (signals.foldl (step buy sell) simulation).lastDay =
        ((signals.getLast?).map Signal.day).getD simulation.lastDay := by
  induction signals using List.reverseRecOn with
  | nil => exact ⟨books, rfl⟩
  | append_singleton earlier signal inductionHypothesis =>
    obtain ⟨before, isDay⟩ := inductionHypothesis
      (fun signal member => later signal (List.mem_append_left _ member))
      (List.pairwise_append.mp ordered).1
    rw [List.foldl_append, List.getLast?_concat]
    refine books_step before ?_
    rw [isDay]
    rcases isLast : earlier.getLast? with _ | last
    · exact later signal (List.mem_append_right _ (List.mem_singleton_self _))
    · exact (List.pairwise_append.mp ordered).2.2 last (List.mem_of_getLast? isLast) signal
        (List.mem_singleton_self _)

theorem position_foldl (signals : List (Signal K)) :
    (signals.foldl (step buy sell) simulation).position =
      signals.foldl (moved buy sell) simulation.position := by
  induction signals generalizing simulation with
  | nil => rfl
  | cons signal rest inductionHypothesis =>
    exact inductionHypothesis

theorem touched_foldl {signals : List (Signal K)} {day : ℕ}
    (today : ∀ signal ∈ signals, signal.day = day) :
    Touched day (signals.foldl (step buy sell) simulation) ↔
      Touched day simulation ∨ ∃ signal ∈ signals, buy < signal.pUp := by
  induction signals generalizing simulation with
  | nil => simp
  | cons signal rest inductionHypothesis =>
    obtain ⟨isToday, restToday⟩ := List.forall_mem_cons.mp today
    rw [List.foldl_cons, inductionHypothesis restToday, ← isToday, touched_step]
    simp [or_assoc]

/-- Trades that have been closed were closed on days of the bars. -/
theorem closedOn_foldl (signals : List (Signal K)) :
    ∀ trade ∈ (signals.foldl (step buy sell) simulation).trades,
      trade ∈ simulation.trades ∨ ∃ signal ∈ signals, trade.closedOn = signal.day := by
  induction signals using List.reverseRecOn with
  | nil => exact fun trade => Or.inl
  | append_singleton earlier signal inductionHypothesis =>
    intro trade member
    rw [List.foldl_append] at member
    obtain old | new := List.mem_append.mp member
    · exact (inductionHypothesis trade old).imp_right fun ⟨other, among, same⟩ =>
        ⟨other, List.mem_append_left _ among, same⟩
    · split_ifs at new
      · exact Or.inr ⟨signal, List.mem_append_right _ (List.mem_singleton_self _),
          closedOn_closing new⟩
      · cases new

omit [LinearOrder K] in
/-- What is closed after the last bar is of no day that is over. -/
theorem addsUp_iff (books : Books simulation) {price : K} {index day : ℕ}
    (later : simulation.lastDay ≤ day) :
    AddsUp ⟨simulation.dailyReturns,
      simulation.trades ++ closing simulation.position price index day⟩ ↔
        ¬ Touched simulation.lastDay simulation := by
  constructor
  · rintro addsUp (holds | ⟨trade, member, today⟩)
    · obtain ⟨held, isHeld⟩ := Option.ne_none_iff_exists'.mp holds
      rw [isHeld] at addsUp
      exact absurd (books.flushed _ (addsUp.booked _ (List.mem_append_right _ List.mem_cons_self))).1
        (not_lt.mpr later)
    · exact absurd (books.flushed _ (addsUp.booked trade (List.mem_append_left _ member))).1
        (not_lt.mpr today.ge)
  · intro untouched
    obtain ⟨free, noneToday⟩ := not_or.mp untouched
    have flat : closing simulation.position price index day = [] := by
      rw [not_ne_iff.mp free]
      rfl
    rw [flat, List.append_nil]
    have today (trade : Trade K) (member : trade ∈ simulation.trades) :
        trade.closedOn ≠ simulation.lastDay := fun same => noneToday ⟨trade, member, same⟩
    refine ⟨?_, fun trade member => ?_⟩
    · have total := books.total
      rwa [books.dayPnl, pnlOn_eq_zero today, add_zero] at total
    · obtain ⟨entry, isEntry, same⟩ :=
        List.mem_map.mp ((books.booked trade member).resolve_left (today trade member))
      rw [← same, ← (books.flushed entry isEntry).2]
      exact isEntry

theorem books_start (bars : List (Bar K)) : Books (start bars) :=
  ⟨fun _ => nofun, fun _ => nofun, rfl, add_zero _⟩

theorem day_le_last {Item : Type} {day : Item → ℕ} {items : List Item} {last item : Item}
    (ordered : items.Pairwise fun first second => day first ≤ day second)
    (isLast : items.getLast? = some last) (member : item ∈ items) : day item ≤ day last := by
  obtain ⟨earlier, rfl⟩ := List.getLast?_eq_some_iff.mp isLast
  obtain old | new := List.mem_append.mp member
  · exact (List.pairwise_append.mp ordered).2.2 item old last (List.mem_singleton_self _)
  · rw [List.mem_singleton.mp new]

theorem start_le_day {bars : List (Bar K)} {bar : Bar K}
    (ordered : bars.Pairwise fun first second => first.day ≤ second.day) (member : bar ∈ bars) :
    (start bars).lastDay ≤ bar.day := by
  cases bars with
  | nil => cases member
  | cons first rest =>
    obtain rfl | isRest := List.mem_cons.mp member
    · exact le_rfl
    · exact List.rel_of_pairwise_cons ordered isRest

omit [Field K] [LinearOrder K] in
theorem day_of_mem_dropWhile {signals : List (Signal K)} {last : Signal K}
    (ordered : signals.Pairwise fun first second => first.day ≤ second.day)
    (isLast : signals.getLast? = some last) :
    ∀ signal ∈ signals.dropWhile fun signal => signal.day ≠ last.day, signal.day = last.day := by
  have within := List.dropWhile_sublist (l := signals) fun signal => signal.day ≠ last.day
  have found := List.head?_dropWhile_not (fun signal => decide (signal.day ≠ last.day)) signals
  cases isToday : signals.dropWhile fun signal => signal.day ≠ last.day with
  | nil => exact nofun
  | cons head rest =>
    rw [isToday] at found within
    have headToday : head.day = last.day := by simpa using found
    refine List.forall_mem_cons.mpr ⟨headToday, fun signal member => le_antisymm ?_ ?_⟩
    · exact day_le_last ordered isLast (within.subset (List.mem_cons_of_mem _ member))
    · exact headToday ▸ List.rel_of_pairwise_cons (ordered.sublist within) member

/-- The last day is touched, unless it is quiet. -/
theorem touched_iff {signals : List (Signal K)} (bars : List (Bar K))
    (ordered : signals.Pairwise fun first second => first.day ≤ second.day) :
    Touched (((signals.getLast?).map Signal.day).getD (start bars).lastDay)
      (signals.foldl (step buy sell) (start bars)) ↔ ¬ LastDayQuiet signals buy sell := by
  unfold LastDayQuiet
  rcases isLast : signals.getLast? with _ | last
  · rw [List.getLast?_eq_none_iff.mp isLast]
    exact iff_of_false (by simp [Touched, start]) (by simp)
  · set before := signals.takeWhile fun signal => signal.day ≠ last.day with isBefore
    have run : signals.foldl (step buy sell) (start bars) =
        (signals.dropWhile fun signal => signal.day ≠ last.day).foldl (step buy sell)
          (before.foldl (step buy sell) (start bars)) := by
      rw [← List.foldl_append, List.takeWhile_append_dropWhile]
    have noneToday : ¬ ∃ trade ∈ (before.foldl (step buy sell) (start bars)).trades,
        trade.closedOn = last.day := by
      rintro ⟨trade, member, today⟩
      obtain old | ⟨signal, among, same⟩ := closedOn_foldl before trade member
      · cases old
      · refine absurd (same.symm.trans today) (of_decide_eq_true ?_)
        exact List.all_eq_true.mp List.all_takeWhile signal among
    rw [Option.map_some, Option.getD_some, run,
      touched_foldl (day_of_mem_dropWhile ordered isLast)]
    unfold Touched
    rw [position_foldl, or_iff_left noneToday]
    simp only [Option.mem_some_iff, forall_eq', not_and_or, not_forall, not_not, exists_prop]
    exact Iff.rfl

end Books

section History

variable (history : History K)

theorem days_signals :
    ((signals sqrt bars).map Signal.day).Sublist (bars.map Bar.day) := by
  have days : (signals sqrt bars).map Signal.day = ((bars.map Bar.day).dropLast).drop 50 := by
    unfold signals
    rw [List.map_drop, List.map_dropLast, List.mapIdx_eq_zipIdx_map, List.map_map]
    congr 2
    calc _ = bars.zipIdx.map (Bar.day ∘ Prod.fst) := rfl
      _ = bars.map Bar.day := by rw [← List.map_map, List.zipIdx_map_fst]
  rw [days]
  exact (List.drop_sublist _ _).trans (List.dropLast_sublist _)

/-- The returns add up to the profits, day by day, just when the last day is quiet. -/
theorem run_addsUp_iff (history : History K) (buy sell : K) : AddsUp (run sqrt buy sell history) ↔
    LastDayQuiet (signals sqrt history.bars) buy sell := by
  obtain ⟨bars, enough, ordered⟩ := history
  have days := days_signals sqrt bars
  have sorted := List.pairwise_map.mp ((List.pairwise_map.mpr ordered).sublist days)
  obtain ⟨last, isLast⟩ : ∃ last, bars.getLast? = some last :=
    ⟨_, List.getLast?_eq_some_getLast (List.ne_nil_of_length_pos (by omega))⟩
  have within (signal : Signal K) (member : signal ∈ signals sqrt bars) :
      (start bars).lastDay ≤ signal.day ∧ signal.day ≤ last.day := by
    obtain ⟨bar, isBar, same⟩ := List.mem_map.mp (days.subset (List.mem_map_of_mem member))
    rw [← same]
    exact ⟨start_le_day ordered isBar, day_le_last ordered isLast isBar⟩
  obtain ⟨books, isDay⟩ :=
    books_foldl (books_start bars) (fun signal member => (within signal member).1) sorted
  have later : (simulated sqrt bars buy sell).lastDay ≤ last.day := by
    rw [simulated, isDay]
    rcases isFinal : (signals sqrt bars).getLast? with _ | final
    · exact start_le_day ordered (List.mem_of_getLast? isLast)
    · exact (within final (List.mem_of_getLast? isFinal)).2
  unfold run
  rw [isLast, ← not_not (a := LastDayQuiet _ _ _), ← touched_iff bars sorted, ← isDay]
  exact addsUp_iff books later

end History

/-- A bar of the first day, at one dollar and so many more. -/
def flatBar (more : ℕ) : Bar ℝ :=
  let price : ℝ := (more + 1 : ℕ)
  ⟨⟨price, price, price, price, Nat.cast_pos.mpr more.succ_pos, le_rfl, le_rfl, le_rfl, le_rfl⟩,
    1, 0⟩

/-- Bars of one day, at one price but for the last. -/
def rise : History ℝ where
  bars := List.replicate 51 (flatBar 0) ++ [flatBar 1]
  enough := by simp
  ordered := by simp [flatBar]

theorem signals_rise : ∃ signal, signals Real.sqrt rise.bars = [signal] ∧
    signal.price = (0 + 1 : ℕ) ∧ signal.day = 0 ∧ 0 ≤ signal.pUp :=
  ⟨_, rfl, rfl, rfl, le_max_left _ _⟩

theorem not_addsUp_rise : ¬ AddsUp (run Real.sqrt (-1) (decimal 4 1) rise) := by
  obtain ⟨signal, isSignals, price, day, score⟩ := signals_rise
  have enters : act (-1) (decimal 4 1) (start rise.bars).position signal = .enter := by
    unfold act
    rw [if_neg (by simp [start]), if_pos ⟨by linarith, rfl⟩]
  have held : step (-1) (decimal 4 1) (start rise.bars) signal =
      ⟨some ⟨(0 + 1 : ℕ), signal.index⟩, [], [], 0, 0⟩ := by
    have turned : (start rise.bars).turn signal.day = ⟨none, [], [], 0, 0⟩ := by
      rw [day]
      rfl
    unfold step moved
    rw [turned, enters, price]
    exact congrArg (Simulation.mk _ _ _ · _) (add_zero 0)
  have outcome : run Real.sqrt (-1) (decimal 4 1) rise =
      ⟨[], [⟨(1 + 1 : ℕ) - (0 + 1 : ℕ), 51 - signal.index, 0⟩]⟩ := by
    unfold run simulated
    rw [isSignals, List.foldl_cons, List.foldl_nil, held]
    rfl
  intro addsUp
  have total := addsUp.total
  rw [outcome] at total
  norm_num at total

end GdslExchange.Backtest
