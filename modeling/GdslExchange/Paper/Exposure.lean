/-
This file settles when the paper bot keeps its exposure limit. A BUY is checked
against an estimate: the number of OPEN trades, as it was counted, times the size
of a new trade. What the trades were really opened with, what has been opened
since the count, and what the portfolio has lost since it was read are left out.
The limit is kept exactly where all of that fits in the room the check has left.
-/

import GdslExchange.Async.Protocol
import GdslExchange.Paper.Bot

namespace GdslExchange.Paper

open Async Async.Program
open Protocol (Anywhere Follows Stays anywhere ends permitted)

/-! ### What a BUY is checked on -/

/-- The value of the portfolio and the number of OPEN trades, as a caller has read them last. -/
structure Readings where
  value : Option ℚ
  count : Option ℕ

def Readings.next (readings : Readings) (op : Op) (reply : Except String (Result op)) : Readings :=
  match op, reply with
  | .findPortfolio, .ok portfolio => { readings with value := portfolio.map Portfolio.totalValue }
  | .countOpenTrades, .ok count => { readings with count := some count }
  | _, _ => readings

/-- A tick opens the fraction of the value it has read, after the check of the trades it has
counted. -/
structure Sized (readings : Readings) (settings : BotSettings) (data : PaperTrade) (value : ℚ)
    (count : ℕ) : Prop where
  valueRead : readings.value = some value
  countRead : readings.count = some count
  isOpen : data.isOpen = true
  allocation : data.allocationUsd = some (value * settings.proposedFraction)
  positive : 0 < value * settings.proposedFraction
  checked : count * settings.proposedFraction + settings.proposedFraction ≤
    maxTotalExposure + tolerance

def sizing : Protocol paper Readings where
  start := ⟨none, none⟩
  permits readings
    | .createTrade (.tick settings) data =>
      ∃ value count, Sized readings settings data value count
    | _ => True
  next := Readings.next

/-! ### The property and the condition -/

def openAllocation (desk : Desk) : ℚ :=
  ((desk.trades.filter PaperTrade.isOpen).map fun trade => trade.allocationUsd.getD 0).sum

/-- A position that a tick opens leaves the OPEN trades, itself included, within the limit. -/
def OpensWithin : Step paper → Prop
  | ⟨before, caller, .createTrade (.tick settings) data, delivery⟩ =>
    let after := (Step.mk before caller (.createTrade (.tick settings) data) delivery).after
    delivery.Applies →
      openAllocation after.state ≤ maxTotalExposure * after.state.totalValue
  | _ => True

/-- What the check of a BUY leaves of the limit. -/
def room (settings : BotSettings) (value : ℚ) (count : ℕ) : ℚ :=
  (maxTotalExposure - (count + 1) * settings.proposedFraction) * value

/-- What the OPEN trades hold beyond the estimate. -/
def beyondEstimate (desk : Desk) (settings : BotSettings) (value : ℚ) (count : ℕ) : ℚ :=
  openAllocation desk - count * (value * settings.proposedFraction)

def lostLimit (desk : Desk) (value : ℚ) : ℚ := maxTotalExposure * (value - desk.totalValue)

/-- When a tick opens a position, what its estimate has left out fits in the room that its check
has left. -/
def EstimateFits : Step paper → Prop
  | ⟨before, caller, .createTrade (.tick settings) _, delivery⟩ =>
    delivery.Applies → ∀ value count, (sizing.phase before caller).value = some value →
      (sizing.phase before caller).count = some count →
      beyondEstimate before.state settings value count + lostLimit before.state value ≤
        room settings value count
  | _ => True

/-! ### The calls -/

section Calls

variable (config : PaperConfig)

/-- Every operation but the opening of a tick. -/
def Untaken : Op → Prop
  | .createTrade (.tick _) _ => False
  | _ => True

theorem permits_of_untaken {op : Op} (untaken : Untaken op) (readings : Readings) :
    sizing.permits readings op := by
  cases op with
  | createTrade opening data =>
    cases opening with
    | probe => exact trivial
    | tick settings => exact untaken.elim
  | _ => exact trivial

theorem anywhere_of_untaken {Value : Type} {program : Call Value} (untaken : program.Only Untaken) :
    sizing.Anywhere program :=
  Anywhere.only (untaken.mono fun _ holds => permits_of_untaken holds)

theorem untaken_log (kind : TradingLogKind) (message : String) : (log kind message).Only Untaken :=
  only_then trivial fun _ => trivial

theorem untaken_afterExecution (bot : ℕ) : (afterExecution bot).Only Untaken :=
  only_then trivial fun _ => only_then trivial fun _ => trivial

theorem untaken_paperClosePosition (trade : ℕ) (exitBid : ℚ) :
    (paperClosePosition config trade exitBid).Only Untaken := by
  refine only_then trivial fun t => ?_
  cases t with
  | none => trivial
  | some stored =>
    refine only_bind ?_ fun _ => only_bind (untaken_log _ _) fun _ => trivial
    refine only_then trivial fun _ => ?_
    exact only_then trivial fun _ => trivial

theorem untaken_tickSell (bot : ℕ) (bid : ℚ) (openForPair : List (Stored PaperTrade)) :
    (tickSell config bot bid openForPair).Only Untaken := by
  cases openForPair with
  | nil => trivial
  | cons oldest later =>
    exact only_bind (untaken_paperClosePosition config _ _) fun _ => untaken_afterExecution bot

theorem untaken_logBlocked (signal : AISignalResult) (reason : String) :
    (logBlocked signal reason).Only Untaken := by
  unfold logBlocked
  split
  · exact untaken_log _ _
  · trivial

theorem untaken_logSignal (pair : String) (signal : Option AISignalResult) :
    (logSignal pair signal).Only Untaken := by
  cases signal with
  | none => trivial
  | some signal => exact untaken_log _ _

/-- The drawdown check reads nothing that a BUY is checked on. -/
theorem stays_observe (readings : Readings) (bot : ℕ) (currentEquity : ℚ) :
    sizing.Stays readings (observeEquity bot currentEquity) := by
  refine Stays.bind (Stays.perform ⟨trivial, fun _ => rfl⟩) fun newlyHalted => ?_
  split
  · exact Stays.bind (Stays.perform ⟨trivial, fun _ => rfl⟩) fun _ =>
      Stays.done ()
  · exact Stays.done ()

theorem stays_plain {readings : Readings} {op : Op} (untaken : Untaken op)
    (still : ∀ reply, readings.next op reply = readings) :
    sizing.Stays readings (await op) :=
  Stays.perform ⟨permits_of_untaken untaken readings, still⟩

theorem follows_tickBuy {readings : Readings} {bot : ℕ} {settings : BotSettings} {pair : String}
    {ask totalValue : ℚ} {count : ℕ} (valueRead : readings.value = some totalValue)
    (countRead : readings.count = some count)
    (checked : count * settings.proposedFraction +
      settings.proposedFraction ≤ maxTotalExposure + tolerance) :
    sizing.Follows readings (tickBuy config bot settings pair ask
        (totalValue * settings.proposedFraction)) anywhere := by
  unfold tickBuy
  split
  · exact trivial
  · next positive =>
    have opens : sizing.Follows readings (await (.createTrade (.tick settings)
          (openedRow config pair ask (totalValue * settings.proposedFraction)))) anywhere :=
      Follows.perform
        ⟨totalValue, count, valueRead, countRead, rfl, rfl, not_le.mp positive, checked⟩
        (fun _ => trivial) fun _ => trivial
    have opened : sizing.Follows readings
        (paperOpenPosition config (.tick settings) pair ask
          (totalValue * settings.proposedFraction)) anywhere :=
      Follows.bind opens fun trade reached _ =>
        Follows.bind (anywhere_of_untaken (untaken_log _ _) reached) fun _ _ _ => trivial
    exact Follows.bind opened fun _ reached _ =>
      anywhere_of_untaken (untaken_afterExecution bot) reached

section

variable (bot : ℕ) (settings : BotSettings)
include bot settings

theorem follows_tickSignal {readings : Readings} (pair : String) (book : BookTicker)
    {totalValue : ℚ} (signal : AISignalResult) (valueRead : readings.value = some totalValue) :
    sizing.Follows readings (tickSignal config bot settings pair book totalValue signal)
      anywhere := by
  refine Follows.moves (fun count => { readings with count := some count }) trivial
    (fun _ => rfl) (fun _ => trivial) fun openCount => ?_
  have plain : ∀ {op : Op}, Untaken op →
      (∀ reply, Readings.next { readings with count := some openCount } op reply =
        { readings with count := some openCount }) →
      sizing.Follows { readings with count := some openCount } (await op)
        (ends (fun _ later => later = { readings with count := some openCount })
          fun _ => True) :=
    fun untaken still => Follows.throwing (stays_plain untaken still) fun _ _ => trivial
  refine Follows.bind (plain trivial fun _ => rfl) fun openForPair later same => ?_
  rw [same]
  refine Follows.bind (plain trivial fun _ => rfl) fun pnls later same => ?_
  rw [same]
  refine Follows.bind (plain trivial fun _ => rfl) fun reading later same => ?_
  rw [same]
  split
  · exact anywhere_of_untaken (untaken_logBlocked signal _) _
  · next approved =>
    exact follows_tickBuy config valueRead rfl (exposure_le_of_approved approved)
  · exact anywhere_of_untaken (untaken_tickSell config bot _ _) _

theorem anywhere_tickBook (pair : String) (signal : Option AISignalResult) (book : BookTicker) :
    sizing.Anywhere (tickBook config bot settings pair signal book) := by
  refine Anywhere.bind (anywhere_of_untaken (untaken_logSignal pair signal)) fun _ => ?_
  intro readings
  have reads : sizing.Follows readings (await .findPortfolio)
      (ends (fun portfolio reached => reached.value =
        portfolio.map Portfolio.totalValue) fun _ => True) :=
    Follows.perform trivial (fun _ => rfl) fun _ => trivial
  refine Follows.bind reads fun portfolio reached valueRead => ?_
  cases portfolio with
  | none => exact trivial
  | some portfolio =>
    refine Follows.bind (Follows.throwing (stays_observe reached bot _)
      fun _ _ => trivial) fun _ later same => ?_
    rw [same]
    cases signal with
    | none => exact trivial
    | some signal => exact follows_tickSignal config bot settings pair book signal valueRead

theorem anywhere_tick :
    sizing.Anywhere (tick config bot settings) := by
  refine Anywhere.forEach fun pair => ?_
  refine Anywhere.bind (anywhere_of_untaken (only_perform trivial)) fun signal => ?_
  refine Anywhere.bind (anywhere_of_untaken (only_perform trivial)) fun book => ?_
  cases book with
  | none => exact fun _ => trivial
  | some book => exact anywhere_tickBook config bot settings pair signal book

theorem untaken_runStartupProbe :
    (runStartupProbe config bot settings).Only Untaken := by
  refine only_then trivial fun book => ?_
  cases book with
  | none => exact untaken_log _ _
  | some book =>
    refine only_then trivial fun portfolio => ?_
    dsimp only
    split
    · exact untaken_log _ _
    · refine only_bind ?_ fun created => only_bind (untaken_afterExecution bot) fun _ => ?_
      · exact only_then trivial fun _ => only_bind (untaken_log _ _) fun _ => trivial
      · refine only_bind (untaken_paperClosePosition config _ _) fun _ => ?_
        exact only_bind (untaken_afterExecution bot) fun _ => untaken_log _ _

theorem untaken_probed :
    (probed config bot settings).Only Untaken :=
  only_recover (untaken_runStartupProbe config bot settings) fun _ =>
    only_recover (untaken_log _ _) fun _ => trivial

end

theorem anywhere_start (request : StartRequest) : sizing.Anywhere (start config request) := by
  refine Anywhere.bind (anywhere_of_untaken (only_perform trivial)) fun running => ?_
  refine Anywhere.bind (anywhere_of_untaken only_throwIf) fun _ => ?_
  refine Anywhere.bind (anywhere_of_untaken (only_then trivial fun found => ?_)) fun portfolio => ?_
  · cases found with
    | none => exact only_perform trivial
    | some portfolio => trivial
  refine Anywhere.bind (anywhere_of_untaken (only_perform trivial)) fun bot => ?_
  refine Anywhere.bind (anywhere_of_untaken (untaken_log _ _)) fun _ => ?_
  refine Anywhere.bind (anywhere_of_untaken (untaken_probed config bot _)) fun _ => ?_
  exact Anywhere.recover (anywhere_tick config bot _) fun _ _ => trivial

theorem untaken_stopTrade (stored : Stored PaperTrade) :
    (stopTrade config stored).Only Untaken := by
  refine only_then trivial fun book => ?_
  cases book with
  | none => trivial
  | some book => exact only_bind (untaken_paperClosePosition config _ _) fun _ => trivial

theorem untaken_sessionSeconds (session : Option ℕ) : (sessionSeconds session).Only Untaken := by
  cases session with
  | none => trivial
  | some startedAt => exact only_then trivial fun _ => trivial

theorem anywhere_stop : sizing.Anywhere (stop config) := by
  refine Anywhere.bind (anywhere_of_untaken (only_perform trivial)) fun running => ?_
  refine Anywhere.bind (anywhere_of_untaken only_orThrow) fun _ => ?_
  refine Anywhere.bind (anywhere_of_untaken (only_perform trivial)) fun openTrades => ?_
  refine Anywhere.bind (Anywhere.forEach fun stored =>
    anywhere_of_untaken (untaken_stopTrade config stored)) fun _ => ?_
  refine anywhere_of_untaken (only_then trivial fun session => ?_)
  refine only_bind (untaken_sessionSeconds session) fun sessionDuration => ?_
  refine only_then trivial fun totalTrades => ?_
  exact only_then trivial fun _ => only_bind (untaken_log _ _) fun _ => trivial

/-- A position is opened by a tick that has read the value and counted the OPEN trades. -/
theorem anywhere_call (request : Request) : sizing.Anywhere (request.call config) := by
  cases request with
  | start request => exact anywhere_start config request
  | stop => exact Anywhere.bind (anywhere_stop config) fun _ _ => trivial
  | interval bot =>
    refine Anywhere.bind (anywhere_of_untaken (only_perform trivial)) fun fired => ?_
    cases fired with
    | none => exact fun _ => trivial
    | some settings =>
      exact Anywhere.recover (anywhere_tick config bot settings) fun _ _ => trivial
  | moveFunds amount => exact anywhere_of_untaken (only_perform trivial)

end Calls

/-! ### Every opening -/

theorem openAllocation_append {desk : Desk} {data : PaperTrade} (isOpen : data.isOpen = true) :
    openAllocation { desk with trades := desk.trades ++ [data] } =
      openAllocation desk + data.allocationUsd.getD 0 := by
  unfold openAllocation
  rw [List.filter_append, List.map_append, List.sum_append, List.filter_singleton, isOpen]
  exact congrArg _ (List.sum_singleton)

/-- An opening keeps the limit if and only if what its estimate has left out fits. -/
theorem opensWithin_iff {step : Step paper}
    (permitted : sizing.permits (sizing.phase step.before step.caller) step.op) :
    OpensWithin step ↔ EstimateFits step := by
  obtain ⟨before, caller, op, delivery⟩ := step
  cases op with
  | createTrade opening data =>
    cases opening with
    | probe => exact Iff.rfl
    | tick settings =>
      obtain ⟨value, count, sized⟩ := permitted
      refine forall_congr' fun applies => ?_
      have state : (Step.mk before caller (.createTrade (.tick settings) data) delivery).after.state
          = { before.state with trades := before.state.trades ++ [data] } := if_pos applies
      have allocated : data.allocationUsd.getD 0 = value * settings.proposedFraction := by
        rw [sized.allocation]
        rfl
      have sameValue : before.state.totalValue =
          Desk.totalValue { before.state with trades := before.state.trades ++ [data] } := rfl
      rw [state, openAllocation_append sized.isOpen, allocated, ← sameValue]
      unfold beyondEstimate lostLimit room
      constructor
      · intro within otherValue otherCount valueRead countRead
        rw [sized.valueRead] at valueRead
        rw [sized.countRead] at countRead
        cases valueRead
        cases countRead
        linarith
      · intro fits
        have bound := fits value count sized.valueRead sized.countRead
        linarith
  | _ => exact Iff.rfl

theorem permits_of_mem_steps (config : PaperConfig) (trades : List PaperTrade)
    (portfolio : Option Portfolio) (requests : List Request) (turns : List (Turn paper)) :
    ∀ step ∈ (paperSystem config trades portfolio requests).steps turns,
      sizing.permits (sizing.phase step.before step.caller) step.op :=
  permitted (System.each_call fun _ request => anywhere_call config request _) turns

/-- The estimate covers the OPEN trades, the value has not fallen since it was read, and the check
was not passed by its tolerance. -/
def Covered : Step paper → Prop
  | ⟨before, caller, .createTrade (.tick settings) _, _⟩ =>
    ∀ value count, (sizing.phase before caller).value = some value →
      (sizing.phase before caller).count = some count →
      openAllocation before.state ≤ count * (value * settings.proposedFraction) ∧
        value ≤ before.state.totalValue ∧
        ¬ (maxTotalExposure < (count + 1) * settings.proposedFraction ∧
          (count + 1) * settings.proposedFraction ≤ maxTotalExposure + tolerance)
  | _ => True

theorem estimateFits_of_covered {step : Step paper}
    (permitted : sizing.permits (sizing.phase step.before step.caller) step.op)
    (covered : Covered step) : EstimateFits step := by
  obtain ⟨before, caller, op, delivery⟩ := step
  cases op with
  | createTrade opening data =>
    cases opening with
    | probe => trivial
    | tick settings =>
      intro _ value count valueRead countRead
      obtain ⟨otherValue, otherCount, sized⟩ := permitted
      obtain ⟨estimated, kept, outside⟩ := covered value count valueRead countRead
      have sameValue : some otherValue = some value := sized.valueRead.symm.trans valueRead
      have sameCount : some otherCount = some count := sized.countRead.symm.trans countRead
      cases sameValue
      cases sameCount
      have passed : (count + 1) * settings.proposedFraction ≤ maxTotalExposure + tolerance := by
        have checked := sized.checked
        linarith
      have below : (count + 1) * settings.proposedFraction ≤ maxTotalExposure :=
        not_lt.mp fun above => outside ⟨above, passed⟩
      have valuePositive : 0 < value :=
        (mul_pos_iff_of_pos_right settings.proposedFraction_pos).mp sized.positive
      have left : 0 ≤ room settings value count :=
        mul_nonneg (sub_nonneg.mpr below) valuePositive.le
      have lost : lostLimit before.state value ≤ 0 :=
        mul_nonpos_of_nonneg_of_nonpos (by unfold maxTotalExposure; norm_num) (sub_nonpos.mpr kept)
      have nothing : beyondEstimate before.state settings value count ≤ 0 :=
        sub_nonpos.mpr estimated
      linarith
  | _ => trivial

section Example

private theorem buying_price : (0 : ℚ) < 100 := by
  norm_num

/-- A market on which the coin costs 100 and the signal says to buy. -/
private def buying : (op : Op) → Fate op :=
  answering (some ⟨.buy, 1, none⟩) (some ⟨100, 100, buying_price, buying_price⟩) 0

/-- Two ticks of one bot that both count the OPEN trades before either of them opens one. -/
private def overlappingTicks : List (Step paper) :=
  (paperSystem .default [] (some ⟨100, 0⟩)
    [.start ⟨"SOL/USDT", some 100, []⟩, .interval 0]).steps
    (List.replicate 6 ⟨0, answering none none 0⟩ ++ List.replicate 9 ⟨0, buying⟩ ++
      List.replicate 10 ⟨1, buying⟩ ++ [⟨0, buying⟩, ⟨1, buying⟩])

instance (step : Step paper) : Decidable (OpensWithin step) := by
  obtain ⟨before, caller, op, fate⟩ := step
  rcases op with _ | _
  case createTrade opening data =>
    rcases opening with _ | _ <;> unfold OpensWithin <;> infer_instance
  all_goals exact isTrue trivial

end Example

end GdslExchange.Paper
