/-
This file settles when the two losing-streak cooldowns are exact. The risk gate orders and times
the trades by their opening, and so it counts the streak and its age right only where the closings
tell the same; the trade advisor looks at no time at all, and its block goes when the streak does.
-/

import GdslExchange.Orders.RiskGate
import GdslExchange.Signals.TradeAdvisor

namespace GdslExchange.Orders

open Signals (AutomationEnv Snapshot TradeAdvisoryRequest evaluateTradeIntent settledTrades
  getRecentLosingStreak losingStreakBlock)

/-! ### Streaks -/

/-- The trades, the newest first, by one of their times. -/
def newestFirst (key : Trade → ℕ) (rows : List Trade) : List Trade :=
  rows.mergeSort fun first second => decide (key second ≤ key first)

/-- The time of the newest trade. -/
def latest (key : Trade → ℕ) (rows : List Trade) : Option ℕ :=
  (newestFirst key rows).head?.map key

/-- That many trades have lost, and none has come between them. -/
def Streak (key : Trade → ℕ) (length : ℕ) (rows : List Trade) : Prop :=
  0 < length ∧ length ≤ rows.length ∧
    ∀ trade ∈ (newestFirst key rows).take length, trade.pnl.getD 0 < 0

instance (key : Trade → ℕ) (length : ℕ) (rows : List Trade) : Decidable (Streak key length rows) :=
  inferInstanceAs (Decidable (_ ∧ _ ∧ _))

section Newest

variable {key : Trade → ℕ} {rows : List Trade}

theorem length_newestFirst : (newestFirst key rows).length = rows.length :=
  List.length_mergeSort rows

theorem le_latest {time : ℕ} (isLatest : time ∈ latest key rows) {trade : Trade}
    (member : trade ∈ rows) : key trade ≤ time := by
  obtain ⟨newest, isFirst, rfl⟩ := Option.map_eq_some_iff.mp isLatest
  have sorted : (newestFirst key rows).Pairwise fun first second => key second ≤ key first := by
    have ordered : (newestFirst key rows).Pairwise fun first second =>
        decide (key second ≤ key first) = true :=
      List.pairwise_mergeSort
        (fun first second third => by simp only [decide_eq_true_eq]; omega)
        (fun first second => by simp only [Bool.or_eq_true, decide_eq_true_eq]; omega) rows
    exact ordered.imp fun le => of_decide_eq_true le
  have among : trade ∈ newestFirst key rows := List.mem_mergeSort.mpr member
  cases isRows : newestFirst key rows with
  | nil =>
    rw [isRows] at among
    cases among
  | cons first rest =>
    rw [isRows] at isFirst sorted among
    obtain rfl := Option.some.inj isFirst
    obtain rfl | later := List.mem_cons.mp among
    · exact le_rfl
    · exact List.rel_of_pairwise_cons sorted later

theorem exists_latest {length : ℕ} {other : Trade → ℕ} (streak : Streak other length rows) :
    ∃ time, time ∈ latest key rows := by
  have nonempty : 0 < (newestFirst key rows).length := by
    rw [length_newestFirst]
    exact streak.1.trans_le streak.2.1
  cases isRows : newestFirst key rows with
  | nil =>
    rw [isRows] at nonempty
    cases nonempty
  | cons first rest =>
    refine ⟨key first, ?_⟩
    unfold latest
    rw [isRows]
    rfl

theorem latest_mem {time : ℕ} (isLatest : time ∈ latest key rows) :
    ∃ trade ∈ rows, key trade = time := by
  obtain ⟨newest, isFirst, rfl⟩ := Option.map_eq_some_iff.mp isLatest
  exact ⟨newest, List.mem_mergeSort.mp (List.mem_of_mem_head? isFirst), rfl⟩

end Newest

/-! ### The cooldown of the risk gate -/

/-- The risk gate has nothing else against an order. -/
structure Admissible (zone : ℤ) (desk : Desk) (time : ℕ) (userId : String) (rule : RiskRule)
    (orderSizeUsdt : ℚ) : Prop where
  order : ¬ Over rule.maxOrderNotional orderSizeUsdt
  exposure : ¬ Over rule.maxOpenNotional (estimatedExposure desk userId orderSizeUsdt)
  loss : ¬ StopsBots zone desk time userId rule

/-- The trades that were closed last have all lost, and the last of them within the cooldown. -/
def StreakDue (rows : List Trade) (length minutes time : ℕ) : Prop :=
  Streak Trade.closedAt length rows ∧
    ∃ closed ∈ latest Trade.closedAt rows, (time : ℤ) - closed < minutes * 60000

theorem coolsBots_iff {desk : Desk} {time : ℕ} {userId : String} {rule : RiskRule} {length : ℕ}
    (isStreak : rule.maxLosingStreak = some length) :
    CoolsBots desk time userId rule ↔
      Streak Trade.createdAt length (closedTrades desk.trades userId) ∧
        ∃ opened ∈ latest Trade.createdAt (closedTrades desk.trades userId),
          (time : ℤ) - opened < (rule.cooldownMinutes.getD 0 : ℕ) * 60000 := by
  have picked : CoolsBots desk time userId rule ↔ 0 < length ∧ CoolingDown rule length
      ((newestFirst Trade.createdAt (closedTrades desk.trades userId)).take length) time := by
    unfold CoolsBots
    rw [isStreak]
    exact ⟨fun ⟨other, isOther, cools⟩ => Option.some.inj isOther ▸ cools,
      fun cools => ⟨length, rfl, cools⟩⟩
  rw [picked]
  constructor
  · rintro ⟨positive, enough, allLost, opened, isFirst, recent⟩
    rw [List.length_take, length_newestFirst, le_min_iff] at enough
    rw [List.head?_take, if_neg positive.ne'] at isFirst
    exact ⟨⟨positive, enough.2, allLost⟩, _, Option.mem_map_of_mem _ isFirst, recent⟩
  · rintro ⟨⟨positive, enough, allLost⟩, opened, isLatest, recent⟩
    obtain ⟨first, isFirst, rfl⟩ := Option.map_eq_some_iff.mp isLatest
    refine ⟨positive, ?_, allLost, first, ?_, recent⟩
    · rw [List.length_take, length_newestFirst]
      exact le_min le_rfl enough
    · rw [List.head?_take, if_neg positive.ne']
      exact isFirst

/-- The gate refuses an order that it has nothing else against for the streak exactly while the
streak is due. -/
def GateExact (trades : List Trade) (userId : String) (length minutes : ℕ) : Prop :=
  ∀ (zone : ℤ) (desk : Desk) (time position : ℕ) (orderSizeUsdt : ℚ) (rule : RiskRule),
    desk.trades = trades → choose position (enabledRules desk.riskRules userId) = some rule →
    rule.maxLosingStreak = some length → rule.cooldownMinutes.getD 0 = minutes →
    (∀ trade ∈ closedTrades trades userId, trade.closedAt ≤ time) →
    Admissible zone desk time userId rule orderSizeUsdt →
      (gateDenial zone desk time position userId orderSizeUsdt = some .losingStreakCooldown ↔
        StreakDue (closedTrades trades userId) length minutes time)

/-- A streak by the closings is one by the openings, and the last opening is at the time of the
last closing; without such a streak one by the openings is over before the last closing. -/
structure OpeningsTell (rows : List Trade) (length minutes : ℕ) : Prop where
  due : Streak Trade.closedAt length rows → 0 < minutes →
    Streak Trade.createdAt length rows ∧
      latest Trade.createdAt rows = latest Trade.closedAt rows
  idle : ¬ (Streak Trade.closedAt length rows ∧ 0 < minutes) →
    Streak Trade.createdAt length rows → ∀ opened ∈ latest Trade.createdAt rows,
      ∀ closed ∈ latest Trade.closedAt rows, opened + minutes * 60000 ≤ closed

def streakRule (userId : String) (length minutes : ℕ) : RiskRule where
  userId := userId
  maxOrderNotional := none
  maxOpenNotional := none
  maxDailyLoss := none
  cooldownMinutes := some minutes
  maxLosingStreak := some length
  isEnabled := true
  updatedAt := 0

section Gate

variable {trades : List Trade} {userId : String} {length minutes : ℕ}

theorem gateDenial_of_admissible {zone : ℤ} {desk : Desk} {time position : ℕ}
    {orderSizeUsdt : ℚ} {rule : RiskRule}
    (picked : choose position (enabledRules desk.riskRules userId) = some rule)
    (admissible : Admissible zone desk time userId rule orderSizeUsdt) :
    gateDenial zone desk time position userId orderSizeUsdt = some .losingStreakCooldown ↔
      CoolsBots desk time userId rule := by
  rw [gateDenial_of_picked picked, if_neg admissible.order, if_neg admissible.exposure,
    if_neg admissible.loss]
  split
  · next cools => exact iff_of_true rfl cools
  · next rests => exact iff_of_false nofun rests

theorem cools_iff_due_of_exact (exact : GateExact trades userId length minutes) {time : ℕ}
    (since : ∀ trade ∈ closedTrades trades userId, trade.closedAt ≤ time) :
    (Streak Trade.createdAt length (closedTrades trades userId) ∧
      ∃ opened ∈ latest Trade.createdAt (closedTrades trades userId),
        (time : ℤ) - opened < minutes * 60000) ↔
      StreakDue (closedTrades trades userId) length minutes time := by
  have enabled : enabledRules [streakRule userId length minutes] userId =
      [streakRule userId length minutes] :=
    List.filter_cons_of_pos (decide_eq_true ⟨rfl, rfl⟩)
  let desk : Desk := ⟨[], [streakRule userId length minutes], trades, [], [], []⟩
  have picked : choose 0 (enabledRules desk.riskRules userId) =
      some (streakRule userId length minutes) := by
    show choose 0 (enabledRules [streakRule userId length minutes] userId) = _
    rw [enabled]
    rfl
  have admissible : Admissible 0 desk time userId (streakRule userId length minutes) 0 :=
    ⟨nofun, nofun, nofun⟩
  rw [← exact 0 desk time 0 0 _ rfl picked rfl rfl since admissible,
    gateDenial_of_admissible picked admissible]
  have cools := @coolsBots_iff desk time userId (streakRule userId length minutes) length rfl
  rw [show (streakRule userId length minutes).cooldownMinutes.getD 0 = minutes from rfl] at cools
  exact cools.symm

theorem gateExact_iff : GateExact trades userId length minutes ↔
    OpeningsTell (closedTrades trades userId) length minutes := by
  constructor
  · intro exact
    have since {closed : ℕ} (isLatest : closed ∈ latest Trade.closedAt
        (closedTrades trades userId)) (later : ℕ) :
        ∀ trade ∈ closedTrades trades userId, trade.closedAt ≤ closed + later :=
      fun trade member => (le_latest isLatest member).trans (Nat.le_add_right _ _)
    refine ⟨fun streak timed => ?_, fun idle opens opened isOpened closed isClosed => ?_⟩
    · obtain ⟨closed, isClosed⟩ := @exists_latest Trade.closedAt _ _ _ streak
      have recent : StreakDue (closedTrades trades userId) length minutes
          (closed + (minutes * 60000 - 1)) := ⟨streak, closed, isClosed, by omega⟩
      obtain ⟨opens, opened, isOpened, open_recent⟩ :=
        (cools_iff_due_of_exact exact (since isClosed _)).mpr recent
      refine ⟨opens, ?_⟩
      have past : ¬ StreakDue (closedTrades trades userId) length minutes
          (closed + minutes * 60000) := by
        rintro ⟨-, other, isOther, recent⟩
        obtain rfl := Option.some.inj (isClosed.symm.trans isOther)
        omega
      have notRecent : ¬ (((closed + minutes * 60000 : ℕ) : ℤ) - opened < minutes * 60000) :=
        fun recent => past ((cools_iff_due_of_exact exact (since isClosed _)).mp
          ⟨opens, opened, isOpened, recent⟩)
      have same : opened = closed := by omega
      rw [Option.mem_def.mp isOpened, Option.mem_def.mp isClosed, same]
    · have still : ¬ StreakDue (closedTrades trades userId) length minutes (closed + 0) := by
        rintro ⟨streak, other, isOther, recent⟩
        obtain rfl := Option.some.inj (isClosed.symm.trans isOther)
        exact idle ⟨streak, by omega⟩
      have rests : ¬ (((closed + 0 : ℕ) : ℤ) - opened < minutes * 60000) :=
        fun recent => still ((cools_iff_due_of_exact exact (since isClosed 0)).mp
          ⟨opens, opened, isOpened, recent⟩)
      omega
  · rintro tell zone desk time position orderSizeUsdt rule rfl picked isStreak rfl since admissible
    rw [gateDenial_of_admissible picked admissible, coolsBots_iff isStreak]
    by_cases due : Streak Trade.closedAt length (closedTrades desk.trades userId) ∧
        0 < rule.cooldownMinutes.getD 0
    · obtain ⟨opens, same⟩ := tell.due due.1 due.2
      rw [same]
      exact ⟨fun cools => ⟨due.1, cools.2⟩, fun cools => ⟨opens, cools.2⟩⟩
    · refine iff_of_false ?_ ?_
      · rintro ⟨opens, opened, isOpened, recent⟩
        obtain ⟨closed, isClosed⟩ := @exists_latest Trade.closedAt _ _ _ opens
        have late := tell.idle due opens opened isOpened closed isClosed
        obtain ⟨trade, member, rfl⟩ := latest_mem isClosed
        have passed := since trade member
        omega
      · rintro ⟨streak, closed, isClosed, recent⟩
        obtain ⟨trade, member, rfl⟩ := latest_mem isClosed
        have passed := since trade member
        exact due ⟨streak, by omega⟩

end Gate

/-! ### The block of the trade advisor -/

/-- Half an hour. -/
def blockMs : ℕ := 30 * 60 * 1000

/-- The block is lifted half an hour after the last loss, whatever else there is. -/
def BlockLifted (trades : List Trade) (userId : String) : Prop :=
  ∀ (env : AutomationEnv) (req : TradeAdvisoryRequest) (snapshot : Snapshot) (now : ℕ),
    req.userId = userId →
    (∀ trade ∈ settledTrades trades userId, Signals.lost trade → trade.closedAt + blockMs ≤ now) →
    ∀ reason ∈ (evaluateTradeIntent env req snapshot (some trades) now).reasons,
      reason.code ≠ .losingStreakBlock

section Block

variable {trades : List Trade} {userId : String}

theorem le_length_takeWhile_iff {Item : Type} {predicate : Item → Bool} {count : ℕ}
    {items : List Item} : count ≤ (items.takeWhile predicate).length ↔
      count ≤ items.length ∧ ∀ item ∈ items.take count, predicate item := by
  induction items generalizing count with
  | nil => simp
  | cons item rest inductionHypothesis =>
    cases count with
    | zero => simp
    | succ count =>
      rw [List.takeWhile_cons, List.take_succ_cons, List.length_cons, Nat.succ_le_succ_iff]
      split
      · next holds =>
        rw [List.length_cons, Nat.succ_le_succ_iff, inductionHypothesis]
        simp [holds]
      · next fails =>
        refine iff_of_false (Nat.not_succ_le_zero _) fun all => ?_
        exact fails (all.2 item List.mem_cons_self)

/-- The advisor counts five losses where the five trades that were opened last are losses. -/
theorem block_le_streak_iff : losingStreakBlock ≤ getRecentLosingStreak trades userId ↔
    Streak Trade.createdAt losingStreakBlock (settledTrades trades userId) := by
  have counts : losingStreakBlock ≤ getRecentLosingStreak trades userId ↔
      losingStreakBlock ≤ ((newestFirst Trade.createdAt (settledTrades trades userId)).take 8).length ∧
        ∀ trade ∈ ((newestFirst Trade.createdAt (settledTrades trades userId)).take 8).take
          losingStreakBlock, Signals.lost trade := le_length_takeWhile_iff
  have five : min losingStreakBlock 8 = losingStreakBlock := rfl
  rw [counts, List.take_take, five, List.length_take, length_newestFirst, le_min_iff]
  constructor
  · rintro ⟨⟨-, enough⟩, allLost⟩
    exact ⟨by decide, enough, fun trade member => of_decide_eq_true (allLost trade member)⟩
  · rintro ⟨-, enough, allLost⟩
    exact ⟨⟨by decide, enough⟩, fun trade member => decide_eq_true (allLost trade member)⟩

/-- An advice blocks for a streak just where the advisor counts five losses. -/
theorem streakBlock_mem_iff {env : AutomationEnv} {req : TradeAdvisoryRequest}
    {snapshot : Snapshot} {now : ℕ} :
    (∃ reason ∈ (evaluateTradeIntent env req snapshot (some trades) now).reasons,
      reason.code = .losingStreakBlock) ↔
        losingStreakBlock ≤ getRecentLosingStreak trades req.userId := by
  constructor
  · rintro ⟨reason, member, code⟩
    have isReason := Signals.mem_streakReasons member code
    by_contra few
    have other : Signals.streakReason (getRecentLosingStreak trades req.userId) = some reason :=
      Option.mem_toList.mp isReason
    unfold Signals.streakReason at other
    rw [if_neg few] at other
    split at other
    · obtain rfl := Option.some.inj other
      cases code
    · cases other
  · intro many
    obtain ⟨reason, isReason, code⟩ : ∃ reason,
        Signals.streakReason (getRecentLosingStreak trades req.userId) = some reason ∧
          reason.code = .losingStreakBlock := by
      unfold Signals.streakReason
      rw [if_pos many]
      exact ⟨_, rfl, rfl⟩
    refine ⟨reason, List.mem_append_left _ (List.mem_append_right _ ?_), code⟩
    exact Option.mem_toList.mpr isReason

theorem blockLifted_iff : BlockLifted trades userId ↔
    ¬ Streak Trade.createdAt losingStreakBlock (settledTrades trades userId) := by
  rw [← block_le_streak_iff]
  constructor
  · intro lifted many
    let req : TradeAdvisoryRequest := ⟨userId, "BTCUSDT", .buy, 10, none⟩
    let snapshot : Snapshot := ⟨8, ⟨.buy, 1⟩, none, [], 0⟩
    have late : ∀ trade ∈ settledTrades trades userId, Signals.lost trade →
        trade.closedAt + blockMs ≤
          ((settledTrades trades userId).map Trade.closedAt).sum + blockMs :=
      fun trade member _ => Nat.add_le_add_right
        (List.single_le_sum (by simp) _ (List.mem_map_of_mem member)) _
    obtain ⟨reason, member, code⟩ :=
      (@streakBlock_mem_iff trades ⟨true, none⟩ req snapshot _).mpr many
    exact lifted ⟨true, none⟩ req snapshot _ rfl late reason member code
  · rintro few env req snapshot now rfl - reason member code
    exact few (streakBlock_mem_iff.mp ⟨reason, member, code⟩)

end Block

/-! ### Both cooldowns -/

/-- The cooldown of the gate is exact, and the block of the advisor is lifted in time. -/
structure CooldownExact (trades : List Trade) (userId : String) (length minutes : ℕ) : Prop where
  gate : GateExact trades userId length minutes
  advisor : BlockLifted trades userId

/-- Both cooldowns are right just where the openings tell what the closings do, and the last five
trades that were opened are not all losses. -/
theorem cooldownExact_iff (trades : List Trade) (userId : String) (length minutes : ℕ) :
    CooldownExact trades userId length minutes ↔
      OpeningsTell (closedTrades trades userId) length minutes ∧
        ¬ Streak Trade.createdAt losingStreakBlock (settledTrades trades userId) :=
  ⟨fun exact => ⟨gateExact_iff.mp exact.gate, blockLifted_iff.mp exact.advisor⟩,
    fun tells => ⟨gateExact_iff.mpr tells.1, blockLifted_iff.mpr tells.2⟩⟩

/-- A trade that was held for two hours and lost. -/
def heldLoss : Trade where
  userId := "alice"
  status := .closed
  pnl := some (-1)
  allocationUsd := none
  createdAt := 0
  closedAt := 7200000

/-- A loss is to cool down for an hour, and at the moment it is closed the hour is over. -/
theorem not_cooldownExact : ¬ CooldownExact [heldLoss] "alice" 1 60 := by
  intro exact
  have due : StreakDue (closedTrades [heldLoss] "alice") 1 60 7200000 :=
    ⟨by decide +kernel, 7200000, by decide +kernel, by decide⟩
  have denied := (exact.gate 0 { aliceDesk with
    riskRules := [streakRule "alice" 1 60], trades := [heldLoss] } 7200000 0 10
    (streakRule "alice" 1 60) rfl (by decide +kernel) rfl rfl (by decide +kernel)
    ⟨nofun, nofun, nofun⟩).mpr due
  revert denied
  decide +kernel

end GdslExchange.Orders
