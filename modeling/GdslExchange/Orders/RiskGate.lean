/-
This file models the risk gate of the trading bots, the second of the two risk
checks, and settles when both keep the limits of the risk rules and agree.

The gates pick a rule, a day boundary, a comparison and an exposure estimate
each in their own way. For one state of the tables the condition below compares
them rule by rule; it is exact over all proposed notionals and all rules the two
queries may pick.
-/

import GdslExchange.Orders.Risk

namespace GdslExchange.Orders

open Async Async.Program
open Numeric

/-! ### The gate -/

/-- `todayStart.setHours(0, 0, 0, 0)`, on a server whose clock is this far ahead of UTC. -/
def startOfLocalDay (zone : ℤ) (time : ℕ) : ℕ :=
  ((time + zone) - (time + zone) % dayMs - zone).toNat

/-- `fail`: record a violation, ignoring a failure to do so, and return it. -/
def fail (userId : String) (kind : RiskEventKind) (message : String) : Call RiskVerdict := do
  (await (.createRiskEvent
    { userId := userId, kind := kind, severity := .warn, message := message })).recover
      fun _ => done ()
  return .denied message

/-- The recent trades are all losses, the last of them within the cooldown. -/
def CoolingDown (rule : RiskRule) (streak : ℕ) (recent : List Trade) (time : ℕ) : Prop :=
  streak ≤ recent.length ∧ (∀ trade ∈ recent, trade.pnl.getD 0 < 0) ∧
    ∃ lastLoss ∈ recent.head?,
      (time : ℤ) - lastLoss.createdAt < rule.cooldownMinutes.getD 0 * 60000

instance (rule : RiskRule) (streak : ℕ) (recent : List Trade) (time : ℕ) :
    Decidable (CoolingDown rule streak recent time) :=
  inferInstanceAs (Decidable (_ ∧ _ ∧ _))

def gateLosingStreak (userId : String) (rule : RiskRule) : Call RiskVerdict :=
  match rule.maxLosingStreak with
  | none => return .allowed
  | some streak =>
    if 0 < streak then do
      let recent ← await (.findRecentClosedTrades userId streak)
      let time ← await .now
      if CoolingDown rule streak recent time then
        let minutes := (rule.cooldownMinutes.map toString).getD "null"
        fail userId .losingStreakCooldown
          s!"{streak} consecutive losses, cooling down for {minutes}m"
      else return .allowed
    else return .allowed

def gateDailyLoss (zone : ℤ) (userId : String) (rule : RiskRule) : Call RiskVerdict :=
  match rule.maxDailyLoss with
  | none => gateLosingStreak userId rule
  | some maxDailyLoss => do
    let time ← await .now
    let trades ← await (.findClosedTrades userId (startOfLocalDay zone time))
    let dailyPnl := totalPnl trades
    if dailyPnl < -maxDailyLoss then
      fail userId .dailyLossLimit
        s!"Daily PnL {(toFixed 2 dailyPnl).render} USDT exceeded daily loss limit {text maxDailyLoss}"
    else gateLosingStreak userId rule

/-- The open-exposure part. -/
def gateExposure (zone : ℤ) (userId : String) (orderSizeUsdt : ℚ) (rule : RiskRule) :
    Call RiskVerdict :=
  match rule.maxOpenNotional with
  | none => gateDailyLoss zone userId rule
  | some maxOpenNotional => do
    let openTrades ← await (.countOpenTrades userId)
    let exposure : ℚ := openTrades * orderSizeUsdt
    if exposure > maxOpenNotional then
      fail userId .openExposureLimit
        s!"Open exposure {(toFixed 2 exposure).render} USDT exceeds maxOpenNotional {text maxOpenNotional}"
    else gateDailyLoss zone userId rule

def riskGateCheckRisk (zone : ℤ) (userId : String) (orderSizeUsdt : ℚ) : Call RiskVerdict := do
  let found ← await (.findRiskRule userId)
  match found with
  | none => return .allowed
  | some rule =>
    match rule.maxOrderNotional with
    | none => gateExposure zone userId orderSizeUsdt rule
    | some maxOrderNotional =>
      if orderSizeUsdt > maxOrderNotional then
        fail userId .orderRejected
          s!"Order size {(toFixed 2 orderSizeUsdt).render} USDT exceeds maxOrderNotional {text maxOrderNotional}"
      else gateExposure zone userId orderSizeUsdt rule

/-! ### The property -/

/-- What a check decided: nothing against the order, or the kind of violation it recorded. -/
def denial : Desk × Except String RiskVerdict → Option RiskEventKind
  | (desk, .ok (.denied _)) => desk.riskEvents.getLast?.map RiskEvent.kind
  | _ => none

/-- The sum of pnl over the user's trades closed since the start of the current day. -/
def closedToday (desk : Desk) (userId : String) (time : ℕ) : ℚ :=
  totalPnl ((closedTrades desk.trades userId).filter fun trade =>
    startOfUtcDay time ≤ trade.closedAt)

def openNotional (desk : Desk) (userId : String) : ℚ :=
  ((openTrades desk.trades userId).map fun trade => trade.allocationUsd.getD 0).sum

def DailyLossKept (desk : Desk) (userId : String) (time : ℕ) : Prop :=
  ∀ rule ∈ enabledRules desk.riskRules userId, ∀ limit, rule.maxDailyLoss = some limit →
    -limit < closedToday desk userId time

/-- With an order of this notional no open-notional limit of the user is exceeded. -/
def ExposureKept (desk : Desk) (userId : String) (notional : ℚ) : Prop :=
  ∀ rule ∈ enabledRules desk.riskRules userId, ∀ limit, rule.maxOpenNotional = some limit →
    openNotional desk userId + notional ≤ limit

/-- The two verdicts agree on the limits that both gates check. The exposure limit comes between
them, and the losing streak after both. -/
def Agree (orders : Option RiskEventKind) : Option RiskEventKind → Prop
  | some .openExposureLimit => orders ≠ some .orderRejected
  | some .losingStreakCooldown => orders = none
  | gate => orders = gate

/-- The environment that answers every call at this time and picks the rule at this position. -/
abbrev atTime (time position : ℕ) : Fates := Outlook.fate { time := time, position := position }

/-- The verdicts on one proposed order. -/
def ordersDenial (desk : Desk) (time position : ℕ) (input : RiskCheckInput) :
    Option RiskEventKind :=
  denial ((checkRisk input).exec (atTime time position) desk)

def gateDenial (zone : ℤ) (desk : Desk) (time position : ℕ) (userId : String)
    (orderSizeUsdt : ℚ) : Option RiskEventKind :=
  denial ((riskGateCheckRisk zone userId orderSizeUsdt).exec (atTime time position) desk)

/-- Both gates keep the limits and agree, whatever is proposed and whichever rules are picked. -/
def GatesHold (zone : ℤ) (desk : Desk) (time : ℕ) (userId : String) : Prop :=
  ∀ (input : RiskCheckInput) (first second : ℕ), input.userId = userId →
    (ordersDenial desk time first input = none → DailyLossKept desk userId time) ∧
    (gateDenial zone desk time second userId input.notional = none →
      DailyLossKept desk userId time ∧ ExposureKept desk userId input.notional) ∧
    Agree (ordersDenial desk time first input)
      (gateDenial zone desk time second userId input.notional)

/-! ### The verdicts -/

section Verdicts

variable {zone : ℤ} {desk : Desk} {time position : ℕ} {userId : String} {rule : RiskRule}

/-- The pnl of the trades created since the start of the day, in UTC and on the server. -/
def utcPnl (desk : Desk) (time : ℕ) (userId : String) : ℚ :=
  totalPnl (closedTradesSince desk.trades userId (startOfUtcDay time))

def localPnl (zone : ℤ) (desk : Desk) (time : ℕ) (userId : String) : ℚ :=
  totalPnl (closedTradesSince desk.trades userId (startOfLocalDay zone time))

/-- The order is over a limit, if there is one. -/
def Over (limit : Option ℚ) (amount : ℚ) : Prop := ∃ max ∈ limit, max < amount

instance (limit : Option ℚ) (amount : ℚ) : Decidable (Over limit amount) :=
  inferInstanceAs (Decidable (∃ max ∈ limit, max < amount))

/-- The daily loss that stops the order service. -/
def StopsOrders (desk : Desk) (time : ℕ) (userId : String) (rule : RiskRule) : Prop :=
  ∃ limit ∈ rule.maxDailyLoss, utcPnl desk time userId ≤ -|limit|

def StopsBots (zone : ℤ) (desk : Desk) (time : ℕ) (userId : String) (rule : RiskRule) : Prop :=
  ∃ limit ∈ rule.maxDailyLoss, localPnl zone desk time userId < -limit

/-- The losing streak that stops the bots. -/
def CoolsBots (desk : Desk) (time : ℕ) (userId : String) (rule : RiskRule) : Prop :=
  ∃ streak ∈ rule.maxLosingStreak, 0 < streak ∧ CoolingDown rule streak
    (((closedTrades desk.trades userId).mergeSort
      fun first second => decide (second.createdAt ≤ first.createdAt)).take streak) time

instance : Decidable (StopsOrders desk time userId rule) :=
  inferInstanceAs (Decidable (∃ limit ∈ rule.maxDailyLoss, _))

instance : Decidable (StopsBots zone desk time userId rule) :=
  inferInstanceAs (Decidable (∃ limit ∈ rule.maxDailyLoss, _))

instance : Decidable (CoolsBots desk time userId rule) :=
  inferInstanceAs (Decidable (∃ streak ∈ rule.maxLosingStreak, _))

theorem exec_createRiskEvent {event : RiskEvent} :
    (await (.createRiskEvent event)).exec (atTime time position) desk =
      ({ desk with riskEvents := desk.riskEvents ++ [event] }, .ok ()) := by
  rw [exec_await]
  rfl

theorem denial_deny {event : RiskEvent} :
    denial ((deny event).exec (atTime time position) desk) = some event.kind := by
  unfold deny
  rw [exec_bind_ok exec_createRiskEvent]
  simp only [exec_pure, denial, List.getLast?_concat, Option.map_some]

theorem denial_fail {kind : RiskEventKind} {message : String} :
    denial ((fail userId kind message).exec (atTime time position) desk) = some kind := by
  unfold fail
  have recorded : ((await (.createRiskEvent ⟨userId, kind, .warn, message, none, none, none⟩)
      ).recover fun _ => done ()).exec (atTime time position) desk =
        ({ desk with riskEvents := desk.riskEvents ++
            [⟨userId, kind, .warn, message, none, none, none⟩] }, .ok ()) := by
    rw [exec_recover, exec_createRiskEvent]
  rw [exec_bind_ok recorded]
  simp only [exec_pure, denial, List.getLast?_concat, Option.map_some]

theorem exec_findClosedTrades {since : ℕ} :
    (await (.findClosedTrades userId since)).exec (atTime time position) desk =
      (desk, .ok (closedTradesSince desk.trades userId since)) := by
  rw [exec_await]
  rfl

theorem denial_checkDailyLoss {input : RiskCheckInput} :
    denial ((checkDailyLoss input rule.maxDailyLoss).exec (atTime time position) desk) =
      if StopsOrders desk time input.userId rule then some .dailyLossLimit else none := by
  rcases isLimit : rule.maxDailyLoss with _ | limit
  · have idle : ¬ StopsOrders desk time input.userId rule := by simp [StopsOrders, isLimit]
    rw [if_neg idle]
    rfl
  · have stopsIff : StopsOrders desk time input.userId rule ↔
        totalPnl (closedTradesSince desk.trades input.userId
          (startOfUtcDay (atTime time position .now))) ≤ -|limit| := by
      simp [StopsOrders, isLimit, utcPnl, Outlook.fate]
    unfold checkDailyLoss
    simp only
    rw [exec_bind_ok (exec_now rfl), exec_bind_ok exec_findClosedTrades]
    by_cases stops : StopsOrders desk time input.userId rule
    · rw [if_pos (stopsIff.mp stops), if_pos stops, denial_deny]
    · rw [if_neg (mt stopsIff.mpr stops), if_neg stops]
      rfl

theorem ordersDenial_of_picked {input : RiskCheckInput}
    (picked : choose position (latestRules (enabledRules desk.riskRules input.userId)) =
      some rule) :
    ordersDenial desk time position input =
      if Over rule.maxOrderNotional input.notional then some .orderRejected
      else if StopsOrders desk time input.userId rule then some .dailyLossLimit else none := by
  have found : (await (.findLatestRiskRule input.userId)).exec (atTime time position) desk =
      (desk, .ok (some rule)) := by
    rw [exec_await, ← picked]
    rfl
  unfold ordersDenial checkRisk
  rw [exec_bind_ok found, ← @denial_checkDailyLoss desk time position rule input]
  rcases isMax : rule.maxOrderNotional with _ | max
  · simp only [isMax]
    rw [if_neg (by simp [Over])]
  · have overIff : Over (some max) input.notional ↔ input.notional > max := by simp [Over]
    simp only [isMax]
    by_cases isOver : Over (some max) input.notional
    · rw [if_pos isOver, if_pos (overIff.mp isOver), denial_deny]
    · rw [if_neg isOver, if_neg (mt overIff.mpr isOver)]

theorem ordersDenial_of_unruled {input : RiskCheckInput}
    (unruled : enabledRules desk.riskRules input.userId = []) :
    ordersDenial desk time position input = none := by
  have found : (await (.findLatestRiskRule input.userId)).exec (atTime time position) desk =
      (desk, .ok (choose position (latestRules (enabledRules desk.riskRules input.userId)))) := by
    rw [exec_await]
    rfl
  unfold ordersDenial checkRisk
  rw [exec_bind_ok found, unruled]
  rfl

theorem denial_gateLosingStreak :
    denial ((gateLosingStreak userId rule).exec (atTime time position) desk) =
      if CoolsBots desk time userId rule then some .losingStreakCooldown else none := by
  unfold gateLosingStreak
  rcases isStreak : rule.maxLosingStreak with _ | streak
  · have idle : ¬ CoolsBots desk time userId rule := by simp [CoolsBots, isStreak]
    rw [if_neg idle]
    rfl
  · by_cases positive : 0 < streak
    · have recent : (await (.findRecentClosedTrades userId streak)).exec (atTime time position)
          desk = (desk, .ok (((closedTrades desk.trades userId).mergeSort
            fun first second => decide (second.createdAt ≤ first.createdAt)).take streak)) := by
        rw [exec_await]
        rfl
      have coolsIff : CoolsBots desk time userId rule ↔ CoolingDown rule streak
          (((closedTrades desk.trades userId).mergeSort
            fun first second => decide (second.createdAt ≤ first.createdAt)).take streak)
          (atTime time position .now) := by
        simp [CoolsBots, isStreak, positive, Outlook.fate]
      simp only [if_pos positive]
      rw [exec_bind_ok recent, exec_bind_ok (exec_now rfl)]
      by_cases cools : CoolsBots desk time userId rule
      · rw [if_pos (coolsIff.mp cools), if_pos cools, denial_fail]
      · rw [if_neg (mt coolsIff.mpr cools), if_neg cools]
        rfl
    · have idle : ¬ CoolsBots desk time userId rule := by simp [CoolsBots, isStreak, positive]
      simp only [if_neg positive, if_neg idle]
      rfl

theorem denial_gateDailyLoss :
    denial ((gateDailyLoss zone userId rule).exec (atTime time position) desk) =
      if StopsBots zone desk time userId rule then some .dailyLossLimit
      else if CoolsBots desk time userId rule then some .losingStreakCooldown else none := by
  rw [← @denial_gateLosingStreak desk time position userId rule]
  unfold gateDailyLoss
  rcases isLimit : rule.maxDailyLoss with _ | limit
  · have idle : ¬ StopsBots zone desk time userId rule := by simp [StopsBots, isLimit]
    rw [if_neg idle]
  · have stopsIff : StopsBots zone desk time userId rule ↔
        totalPnl (closedTradesSince desk.trades userId
          (startOfLocalDay zone (atTime time position .now))) < -limit := by
      simp [StopsBots, isLimit, localPnl, Outlook.fate]
    simp only
    rw [exec_bind_ok (exec_now rfl), exec_bind_ok exec_findClosedTrades]
    by_cases stops : StopsBots zone desk time userId rule
    · rw [if_pos (stopsIff.mp stops), if_pos stops, denial_fail]
    · rw [if_neg (mt stopsIff.mpr stops), if_neg stops]

/-- The exposure estimate of the gate. -/
def estimatedExposure (desk : Desk) (userId : String) (orderSizeUsdt : ℚ) : ℚ :=
  (openTrades desk.trades userId).length * orderSizeUsdt

theorem denial_gateExposure {orderSizeUsdt : ℚ} :
    denial ((gateExposure zone userId orderSizeUsdt rule).exec (atTime time position) desk) =
      if Over rule.maxOpenNotional (estimatedExposure desk userId orderSizeUsdt) then
        some .openExposureLimit
      else if StopsBots zone desk time userId rule then some .dailyLossLimit
      else if CoolsBots desk time userId rule then some .losingStreakCooldown else none := by
  rw [← @denial_gateDailyLoss zone desk time position userId rule]
  unfold gateExposure
  rcases isMax : rule.maxOpenNotional with _ | max
  · rw [if_neg (by simp [Over])]
  · have counted : (await (.countOpenTrades userId)).exec (atTime time position) desk =
        (desk, .ok (openTrades desk.trades userId).length) := by
      rw [exec_await]
      rfl
    have overIff : Over (some max) (estimatedExposure desk userId orderSizeUsdt) ↔
        (openTrades desk.trades userId).length * orderSizeUsdt > max := by
      simp [Over, estimatedExposure]
    simp only
    rw [exec_bind_ok counted]
    by_cases isOver : Over (some max) (estimatedExposure desk userId orderSizeUsdt)
    · rw [if_pos isOver, if_pos (overIff.mp isOver), denial_fail]
    · rw [if_neg isOver, if_neg (mt overIff.mpr isOver)]

theorem gateDenial_of_picked {orderSizeUsdt : ℚ}
    (picked : choose position (enabledRules desk.riskRules userId) = some rule) :
    gateDenial zone desk time position userId orderSizeUsdt =
      if Over rule.maxOrderNotional orderSizeUsdt then some .orderRejected
      else if Over rule.maxOpenNotional (estimatedExposure desk userId orderSizeUsdt) then
        some .openExposureLimit
      else if StopsBots zone desk time userId rule then some .dailyLossLimit
      else if CoolsBots desk time userId rule then some .losingStreakCooldown else none := by
  have found : (await (.findRiskRule userId)).exec (atTime time position) desk =
      (desk, .ok (some rule)) := by
    rw [exec_await, ← picked]
    rfl
  rw [← @denial_gateExposure zone desk time position userId rule]
  unfold gateDenial riskGateCheckRisk
  rw [exec_bind_ok found]
  rcases isMax : rule.maxOrderNotional with _ | max
  · simp only [isMax]
    rw [if_neg (by simp [Over])]
  · have overIff : Over (some max) orderSizeUsdt ↔ orderSizeUsdt > max := by simp [Over]
    simp only [isMax]
    by_cases isOver : Over (some max) orderSizeUsdt
    · rw [if_pos isOver, if_pos (overIff.mp isOver), denial_fail]
    · rw [if_neg isOver, if_neg (mt overIff.mpr isOver)]

theorem gateDenial_of_unruled {orderSizeUsdt : ℚ}
    (unruled : enabledRules desk.riskRules userId = []) :
    gateDenial zone desk time position userId orderSizeUsdt = none := by
  have found : (await (.findRiskRule userId)).exec (atTime time position) desk =
      (desk, .ok (choose position (enabledRules desk.riskRules userId))) := by
    rw [exec_await]
    rfl
  unfold gateDenial riskGateCheckRisk
  rw [exec_bind_ok found, unruled]
  rfl

end Verdicts

/-! ### The condition -/

/-- Some notional passes the exposure estimate of a rule. -/
def Passable (desk : Desk) (userId : String) (rule : RiskRule) : Prop :=
  (openTrades desk.trades userId).length = 0 → ∀ limit ∈ rule.maxOpenNotional, 0 ≤ limit

/-- The notionals that a rule lets pass stay within an open-notional limit: its order limit keeps
them small enough, or its own open limit spread over the open trades does. -/
def Bounded (desk : Desk) (userId : String) (rule : RiskRule) (limit : ℚ) : Prop :=
  (∃ max ∈ rule.maxOrderNotional, openNotional desk userId + max ≤ limit) ∨
    0 < (openTrades desk.trades userId).length ∧ ∃ max ∈ rule.maxOpenNotional,
      openNotional desk userId + max / (openTrades desk.trades userId).length ≤ limit

/-- The picked rules have one order limit and stop at the same losses, a gate that does not stop
finds no limit reached by the trades closed today, and what it lets pass is bounded. -/
structure GatesAligned (zone : ℤ) (desk : Desk) (time : ℕ) (userId : String) : Prop where
  orders : ∀ latest ∈ latestRules (enabledRules desk.riskRules userId),
    ¬ StopsOrders desk time userId latest → DailyLossKept desk userId time
  bots : ∀ rule ∈ enabledRules desk.riskRules userId, Passable desk userId rule →
    ¬ StopsBots zone desk time userId rule → ¬ CoolsBots desk time userId rule →
      DailyLossKept desk userId time ∧ ∀ other ∈ enabledRules desk.riskRules userId,
        ∀ limit, other.maxOpenNotional = some limit → Bounded desk userId rule limit
  limits : ∀ latest ∈ latestRules (enabledRules desk.riskRules userId),
    ∀ rule ∈ enabledRules desk.riskRules userId,
      latest.maxOrderNotional = rule.maxOrderNotional
  stops : ∀ latest ∈ latestRules (enabledRules desk.riskRules userId),
    ∀ rule ∈ enabledRules desk.riskRules userId, Passable desk userId rule →
      (StopsOrders desk time userId latest ↔ StopsBots zone desk time userId rule)

section Aligned

variable {zone : ℤ} {desk : Desk} {time : ℕ} {userId : String} {rule latest : RiskRule}

theorem not_over_iff {limit : Option ℚ} {amount : ℚ} :
    ¬ Over limit amount ↔ ∀ max ∈ limit, amount ≤ max := by
  unfold Over
  simp only [not_exists, not_and, not_lt]

theorem exists_passing (passable : Passable desk userId rule) (floor : ℚ)
    (belowOrder : ∀ max ∈ rule.maxOrderNotional, floor < max)
    (belowOpen : 0 < (openTrades desk.trades userId).length → ∀ max ∈ rule.maxOpenNotional,
      floor < max / (openTrades desk.trades userId).length) :
    ∃ notional, floor < notional ∧ ¬ Over rule.maxOrderNotional notional ∧
      ¬ Over rule.maxOpenNotional (estimatedExposure desk userId notional) := by
  unfold estimatedExposure
  rcases Nat.eq_zero_or_pos (openTrades desk.trades userId).length with nothingOpen | someOpen
  · refine ⟨rule.maxOrderNotional.getD (floor + 1), ?_, ?_, ?_⟩
    · cases isMax : rule.maxOrderNotional with
      | none => exact lt_add_one floor
      | some max => exact belowOrder max isMax
    · rw [not_over_iff]
      intro max isMax
      rw [isMax]
      exact le_refl max
    · rw [not_over_iff, nothingOpen, Nat.cast_zero, zero_mul]
      exact passable nothingOpen
  · have positive : (0 : ℚ) < (openTrades desk.trades userId).length := Nat.cast_pos.mpr someOpen
    set count := ((openTrades desk.trades userId).length : ℚ) with isCount
    refine ⟨min (rule.maxOrderNotional.getD (floor + 1))
      ((rule.maxOpenNotional.map fun max => max / count).getD (floor + 1)), ?_, ?_, ?_⟩
    · refine lt_min ?_ ?_
      · cases isMax : rule.maxOrderNotional with
        | none => exact lt_add_one floor
        | some max => exact belowOrder max isMax
      · cases isMax : rule.maxOpenNotional with
        | none => exact lt_add_one floor
        | some max => exact belowOpen someOpen max isMax
    · rw [not_over_iff]
      intro max isMax
      rw [isMax]
      exact min_le_left _ _
    · rw [not_over_iff]
      intro max isMax
      rw [isMax, ← le_div_iff₀' positive]
      exact min_le_right _ _

theorem exists_passing_some (passable : Passable desk userId rule) :
    ∃ notional, ¬ Over rule.maxOrderNotional notional ∧
      ¬ Over rule.maxOpenNotional (estimatedExposure desk userId notional) := by
  obtain ⟨notional, _, passes⟩ := exists_passing passable
    (min (rule.maxOrderNotional.getD 0)
      (rule.maxOpenNotional.getD 0 / (openTrades desk.trades userId).length) - 1)
    (fun max isMax => by
      rw [isMax]
      exact (sub_one_lt _).trans_le (min_le_left _ _))
    fun _ max isMax => by
      rw [isMax]
      exact (sub_one_lt _).trans_le (min_le_right _ _)
  exact ⟨notional, passes⟩

theorem ordersDenial_of_within {position : ℕ} {input : RiskCheckInput}
    (picked : choose position (latestRules (enabledRules desk.riskRules input.userId)) =
      some latest) (within : ¬ Over latest.maxOrderNotional input.notional) :
    ordersDenial desk time position input =
      if StopsOrders desk time input.userId latest then some .dailyLossLimit else none := by
  rw [ordersDenial_of_picked picked, if_neg within]

theorem gateDenial_of_within {position : ℕ} {notional : ℚ}
    (picked : choose position (enabledRules desk.riskRules userId) = some rule)
    (within : ¬ Over rule.maxOrderNotional notional)
    (open_ : ¬ Over rule.maxOpenNotional (estimatedExposure desk userId notional)) :
    gateDenial zone desk time position userId notional =
      if StopsBots zone desk time userId rule then some .dailyLossLimit
      else if CoolsBots desk time userId rule then some .losingStreakCooldown else none := by
  rw [gateDenial_of_picked picked, if_neg within, if_neg open_]

/-- The order proposed with this notional. -/
def proposal (userId : String) (notional : ℚ) : RiskCheckInput where
  userId := userId
  symbol := "BTCUSDT"
  quantity := 0
  price := 0
  notionalUsd := some notional

theorem limits_eq_of_over_iff {first second : Option ℚ}
    (same : ∀ notional, Over first notional ↔ Over second notional) : first = second := by
  cases first with
  | none =>
    cases second with
    | none => rfl
    | some max =>
      obtain ⟨_, impossible, _⟩ := (same (max + 1)).mpr ⟨max, rfl, lt_add_one max⟩
      cases impossible
  | some max =>
    cases second with
    | none =>
      obtain ⟨_, impossible, _⟩ := (same (max + 1)).mp ⟨max, rfl, lt_add_one max⟩
      cases impossible
    | some other =>
      rcases lt_trichotomy max other with below | equal | above
      · obtain ⟨_, isOther, isOver⟩ := (same other).mp ⟨max, rfl, below⟩
        cases isOther
        exact absurd isOver (lt_irrefl other)
      · rw [equal]
      · obtain ⟨_, isMax, isOver⟩ := (same max).mpr ⟨other, rfl, above⟩
        cases isMax
        exact absurd isOver (lt_irrefl max)

theorem passable_of_passes {notional : ℚ}
    (passes : ¬ Over rule.maxOpenNotional (estimatedExposure desk userId notional)) :
    Passable desk userId rule := by
  intro nothingOpen limit isLimit
  rw [not_over_iff] at passes
  have bound := passes limit isLimit
  rwa [estimatedExposure, nothingOpen, Nat.cast_zero, zero_mul] at bound

theorem Bounded.le {limit notional : ℚ} (bounded : Bounded desk userId rule limit)
    (within : ¬ Over rule.maxOrderNotional notional)
    (passes : ¬ Over rule.maxOpenNotional (estimatedExposure desk userId notional)) :
    openNotional desk userId + notional ≤ limit := by
  rw [not_over_iff] at within passes
  rcases bounded with ⟨max, isMax, below⟩ | ⟨someOpen, max, isMax, below⟩
  · have atMost := within max isMax
    linarith
  · have positive : (0 : ℚ) < (openTrades desk.trades userId).length := Nat.cast_pos.mpr someOpen
    have atMost := passes max isMax
    rw [estimatedExposure, ← le_div_iff₀' positive] at atMost
    linarith

theorem bounded_of_forall {limit : ℚ} (passable : Passable desk userId rule)
    (every : ∀ notional, ¬ Over rule.maxOrderNotional notional →
      ¬ Over rule.maxOpenNotional (estimatedExposure desk userId notional) →
      openNotional desk userId + notional ≤ limit) : Bounded desk userId rule limit := by
  by_contra unbounded
  unfold Bounded at unbounded
  simp only [not_or, not_exists, not_and, not_le] at unbounded
  obtain ⟨aboveOrder, aboveOpen⟩ := unbounded
  obtain ⟨notional, isOver, within, passes⟩ := exists_passing passable
    (limit - openNotional desk userId)
    (fun max isMax => sub_lt_iff_lt_add'.mpr (aboveOrder max isMax))
    fun someOpen max isMax => sub_lt_iff_lt_add'.mpr (aboveOpen someOpen max isMax)
  have bound := every notional within passes
  linarith

theorem exists_choose_of_ne_nil {Row : Type} {rows : List Row} (position : ℕ)
    (nonempty : rows ≠ []) : ∃ row ∈ rows, choose position rows = some row := by
  obtain ⟨row, isRow⟩ := Option.ne_none_iff_exists'.mp (mt choose_eq_none_iff.mp nonempty)
  exact ⟨row, mem_of_choose isRow, isRow⟩

theorem gatesHold_of_aligned (aligned : GatesAligned zone desk time userId) :
    GatesHold zone desk time userId := by
  intro input first second isUser
  subst isUser
  by_cases unruled : enabledRules desk.riskRules input.userId = []
  · have vacuous : ∀ property : RiskRule → Prop,
        ∀ rule ∈ enabledRules desk.riskRules input.userId, property rule := by
      intro property rule member
      rw [unruled] at member
      cases member
    rw [ordersDenial_of_unruled unruled, gateDenial_of_unruled unruled]
    exact ⟨fun _ => vacuous _, fun _ => ⟨vacuous _, vacuous _⟩, rfl⟩
  obtain ⟨latest, isLatest, pickedLatest⟩ :=
    exists_choose_of_ne_nil first (mt (latestRules_eq_nil_iff _).mp unruled)
  obtain ⟨rule, isRule, pickedRule⟩ := exists_choose_of_ne_nil second unruled
  rw [ordersDenial_of_picked pickedLatest, gateDenial_of_picked pickedRule,
    aligned.limits latest isLatest rule isRule]
  by_cases isOver : Over rule.maxOrderNotional input.notional
  · simp only [if_pos isOver]
    exact ⟨nofun, nofun, rfl⟩
  simp only [if_neg isOver]
  have daily : ¬ StopsOrders desk time input.userId latest →
      DailyLossKept desk input.userId time := aligned.orders latest isLatest
  by_cases overOpen : Over rule.maxOpenNotional
      (estimatedExposure desk input.userId input.notional)
  · simp only [if_pos overOpen]
    by_cases stops : StopsOrders desk time input.userId latest
    · simp only [if_pos stops]
      exact ⟨nofun, nofun, nofun⟩
    · simp only [if_neg stops]
      exact ⟨fun _ => daily stops, nofun, nofun⟩
  have passable := passable_of_passes overOpen
  simp only [if_neg overOpen]
  have sameStop := aligned.stops latest isLatest rule isRule passable
  by_cases stops : StopsOrders desk time input.userId latest
  · simp only [if_pos stops, if_pos (sameStop.mp stops)]
    exact ⟨nofun, nofun, rfl⟩
  have goesOn := mt sameStop.mpr stops
  simp only [if_neg stops, if_neg goesOn]
  refine ⟨fun _ => daily stops, fun allowed => ?_, ?_⟩
  · by_cases cools : CoolsBots desk time input.userId rule
    · rw [if_pos cools] at allowed
      cases allowed
    · obtain ⟨kept, bounded⟩ := aligned.bots rule isRule passable goesOn cools
      exact ⟨kept, fun other isOther limit isLimit =>
        (bounded other isOther limit isLimit).le isOver overOpen⟩
  · split <;> rfl

theorem agree_of_gatesHold (hold : GatesHold zone desk time userId) {latest rule : RiskRule}
    (isLatest : latest ∈ latestRules (enabledRules desk.riskRules userId))
    (isRule : rule ∈ enabledRules desk.riskRules userId) (notional : ℚ) :
    ∃ first second, choose first (latestRules (enabledRules desk.riskRules userId)) =
        some latest ∧ choose second (enabledRules desk.riskRules userId) = some rule ∧
      Agree (ordersDenial desk time first (proposal userId notional))
        (gateDenial zone desk time second userId notional) := by
  obtain ⟨first, isFirst⟩ := exists_choose isLatest
  obtain ⟨second, isSecond⟩ := exists_choose isRule
  exact ⟨first, second, isFirst, isSecond,
    (hold (proposal userId notional) first second rfl).2.2⟩

theorem limits_of_gatesHold (hold : GatesHold zone desk time userId) {latest rule : RiskRule}
    (isLatest : latest ∈ latestRules (enabledRules desk.riskRules userId))
    (isRule : rule ∈ enabledRules desk.riskRules userId) :
    latest.maxOrderNotional = rule.maxOrderNotional := by
  refine limits_eq_of_over_iff fun notional => ?_
  obtain ⟨first, second, isFirst, isSecond, agree⟩ :=
    agree_of_gatesHold hold isLatest isRule notional
  have orders := @ordersDenial_of_picked desk time first latest (proposal userId notional)
    isFirst
  have bots := @gateDenial_of_picked zone desk time second userId rule notional isSecond
  have sameNotional : (proposal userId notional).notional = notional := rfl
  rw [sameNotional] at orders
  rw [orders, bots] at agree
  by_cases overLatest : Over latest.maxOrderNotional notional <;>
    by_cases overRule : Over rule.maxOrderNotional notional
  · exact iff_of_true overLatest overRule
  · rw [if_pos overLatest, if_neg overRule] at agree
    split at agree
    · exact absurd rfl agree
    · split at agree
      · cases agree
      · split at agree <;> cases agree
  · rw [if_neg overLatest, if_pos overRule] at agree
    split at agree <;> cases agree
  · exact iff_of_false overLatest overRule

theorem aligned_of_gatesHold (hold : GatesHold zone desk time userId) :
    GatesAligned zone desk time userId := by
  refine ⟨?_, ?_, fun latest isLatest rule isRule => limits_of_gatesHold hold isLatest isRule, ?_⟩
  · intro latest isLatest goesOn
    obtain ⟨first, isFirst⟩ := exists_choose isLatest
    have within : ¬ Over latest.maxOrderNotional
        (proposal userId (latest.maxOrderNotional.getD 0)).notional := by
      rw [not_over_iff]
      intro max isMax
      show latest.maxOrderNotional.getD 0 ≤ max
      rw [isMax]
      exact le_refl max
    refine (hold (proposal userId (latest.maxOrderNotional.getD 0)) first 0 rfl).1 ?_
    rw [ordersDenial_of_within isFirst within]
    exact if_neg goesOn
  · intro rule isRule passable goesOn warm
    obtain ⟨second, isSecond⟩ := exists_choose isRule
    have allowed : ∀ notional, ¬ Over rule.maxOrderNotional notional →
        ¬ Over rule.maxOpenNotional (estimatedExposure desk userId notional) →
        DailyLossKept desk userId time ∧ ExposureKept desk userId notional := by
      intro notional within passes
      refine (hold (proposal userId notional) 0 second rfl).2.1 ?_
      show gateDenial zone desk time second userId notional = none
      rw [gateDenial_of_within isSecond within passes, if_neg goesOn, if_neg warm]
    obtain ⟨notional, within, passes⟩ := exists_passing_some passable
    refine ⟨(allowed notional within passes).1, fun other isOther limit isLimit => ?_⟩
    exact bounded_of_forall passable fun notional within passes =>
      (allowed notional within passes).2 other isOther limit isLimit
  · intro latest isLatest rule isRule passable
    obtain ⟨notional, within, passes⟩ := exists_passing_some passable
    obtain ⟨first, second, isFirst, isSecond, agree⟩ :=
      agree_of_gatesHold hold isLatest isRule notional
    have withinLatest : ¬ Over latest.maxOrderNotional (proposal userId notional).notional := by
      rw [limits_of_gatesHold hold isLatest isRule]
      exact within
    have orders := @ordersDenial_of_within desk time latest first (proposal userId notional)
      isFirst withinLatest
    rw [orders, gateDenial_of_within isSecond within passes] at agree
    by_cases stopsOrders : StopsOrders desk time userId latest <;>
      by_cases stopsBots : StopsBots zone desk time userId rule
    · exact iff_of_true stopsOrders stopsBots
    · have stopped : StopsOrders desk time (proposal userId notional).userId latest := stopsOrders
      rw [if_pos stopped, if_neg stopsBots] at agree
      split at agree <;> cases agree
    · have goesOn : ¬ StopsOrders desk time (proposal userId notional).userId latest :=
        stopsOrders
      rw [if_neg goesOn, if_pos stopsBots] at agree
      cases agree
    · exact iff_of_false stopsOrders stopsBots

/-- Both gates keep the limits and agree, for every proposed order, exactly when the rules are
aligned. -/
theorem gatesHold_iff (zone : ℤ) (desk : Desk) (time : ℕ) (userId : String) :
    GatesHold zone desk time userId ↔ GatesAligned zone desk time userId :=
  ⟨aligned_of_gatesHold, gatesHold_of_aligned⟩

end Aligned

/-! ### A loss closed on the next day -/

/-- A rule that stops trading after a daily loss of 100. -/
def aliceRule : RiskRule where
  userId := "alice"
  maxOrderNotional := none
  maxOpenNotional := none
  maxDailyLoss := some 100
  cooldownMinutes := none
  maxLosingStreak := none
  isEnabled := true
  updatedAt := 0

/-- A trade opened on the first day and closed on the second, with a loss of 200. -/
def overnightLoss : Trade where
  userId := "alice"
  status := .closed
  pnl := some (-200)
  allocationUsd := none
  createdAt := 0
  closedAt := dayMs + 1

/-- The loss counts on the day the trade was opened, so neither gate sees it. -/
theorem not_gatesHold :
    ¬ ∀ (zone : ℤ) (desk : Desk) (time : ℕ) (userId : String),
      GatesHold zone desk time userId := by
  intro claimed
  have kept := (claimed 0 { aliceDesk with riskRules := [aliceRule], trades := [overnightLoss] }
    (dayMs + 2) "alice" (proposal "alice" 10) 0 0 rfl).1 (by decide +kernel)
  have above := kept aliceRule (by decide +kernel) 100 rfl
  revert above
  decide +kernel

end GdslExchange.Orders
