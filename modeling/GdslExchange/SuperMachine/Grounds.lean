/-
This file says what a swap of the Super Machine rests on: what its tick has read of
the row, of the counters of the day and of the wallet, what the meta-policy has read
for the token that is bought and asked the risk gate about, and what the tick has
published.

Every swap, of any tick and in any run, is a BUY of the dynamic size of the cap that
these readings give.
-/

import GdslExchange.Async.Protocol
import GdslExchange.SuperMachine.Tick

namespace GdslExchange.SuperMachine

open Async Async.Program
open Protocol (Anywhere Follows Stays anywhere ends permitted phase_after_other phase_after_self)

/-! ### What a tick has read -/

/-- What `decide` has read for a token. -/
structure PolicyReading where
  market : MarketReading
  aligned : Bool
  pnls : List ℚ

/-- The size that the meta-policy gives the token. -/
def PolicyReading.orderSize (reading : PolicyReading) : ℚ :=
  if reading.market.rawAction = .buy ∧ reading.aligned then
    computeOrderSize reading.market.pUp defaultEquity reading.pnls
  else 0

/-- The row that the watcher has read, the row with the counters of the day, and the USDC of the
wallet. -/
structure TickReading where
  row : Option Config
  refreshed : Option Config
  usdc : Option ℚ

/-- The readings of a tick so far: those about its user, the decision on the latest token, whom and
which size the risk gate has allowed for it, and what the tick has published. -/
structure Readings where
  tick : TickReading
  policy : Option PolicyReading
  allowed : Option (String × ℚ)
  published : Option (ℚ × SuperMachineStats)

def Readings.next (readings : Readings) (op : Op) (reply : Except String (Result op)) : Readings :=
  match op, reply with
  | .findRunning, .ok found => ⟨⟨found, found, none⟩, none, none, none⟩
  | .updateConfig (.resetCounters _), .ok row =>
    { readings with tick := { readings.tick with refreshed := some row } }
  | .getSolanaBalances, .ok usdc =>
    { readings with tick := { readings.tick with usdc := some usdc } }
  | .readMarket _, .ok market =>
    { readings with policy := some ⟨market, false, []⟩, allowed := none }
  | .mtfAligned _, .ok aligned =>
    { readings with policy := readings.policy.map fun reading => { reading with aligned := aligned } }
  | .findClosedPnls _, .ok pnls =>
    { readings with policy := readings.policy.map fun reading => { reading with pnls := pnls } }
  | .checkRisk userId orderSizeUsdt, .ok .allowed =>
    { readings with allowed := some (userId, orderSizeUsdt) }
  | .emitTick confidence stats, _ => { readings with published := some (confidence, stats) }
  | _, _ => readings

/-- The effective maximum trade of a tick: the saved one, or in auto-scan, where the wallet could
be read, the larger of it and the cap of the wallet. -/
def TickReading.maxTrade (reading : TickReading) (row : Config) : ℚ :=
  if row.toSettings.watchSymbol.isSome then row.maxTradeUsd
  else match reading.usdc with
  | none => row.maxTradeUsd
  | some usdc => max row.maxTradeUsd (walletMaxTradeUsd usdc)

/-! ### What a swap rests on -/

/-- A tick goes on while the counters it has read are below the limits it has read. -/
structure Due (reading : TickReading) (row refreshed : Config) : Prop where
  rowRead : reading.row = some row
  refreshedRead : reading.refreshed = some refreshed
  tradesLeft : refreshed.tradesToday < row.maxDailyTrades
  volumeLeft : refreshed.volumeTodayUsd < row.maxDailyVolumeUsd

/-- The meta-policy has decided on a token, and the risk gate has been asked about its size and
has allowed it, if that is one. -/
def Cleared (readings : Readings) (userId : String) : Prop :=
  ∃ policy, readings.policy = some policy ∧
    readings.allowed = if 0 < policy.orderSize then some (userId, policy.orderSize) else none

/-- A swap is made for a tick that goes on, after the decision on its token, with the dynamic size
of what the tick has published. -/
structure Grounded (readings : Readings) (request : SwapRequest) (row refreshed : Config)
    (confidence : ℚ) (stats : SuperMachineStats) : Prop where
  due : Due readings.tick row refreshed
  cleared : Cleared readings refreshed.userId
  published : readings.published = some (confidence, stats)
  sized : request.amount = calculateDynamicSize (readings.tick.maxTrade row) confidence stats

def grounds : Protocol world Readings where
  start := ⟨⟨none, none, none⟩, none, none, none⟩
  permits readings
    | .executeJupiterSwap request =>
      ∃ row refreshed confidence stats, Grounded readings request row refreshed confidence stats
    | _ => True
  next := Readings.next

/-! ### The meta-policy -/

/-- Every operation but the swap. -/
def Harmless : Op → Prop
  | .executeJupiterSwap _ => False
  | _ => True

theorem permits_of_harmless {op : Op} (harmless : Harmless op) (readings : Readings) :
    grounds.permits readings op := by
  cases op with
  | executeJupiterSwap request => exact harmless.elim
  | _ => exact trivial

theorem anywhere_of_harmless {Value : Type} {program : Call Value}
    (harmless : program.Only Harmless) : grounds.Anywhere program :=
  Anywhere.only (harmless.mono fun _ holds => permits_of_harmless holds)

theorem stays_await {op : Op} {readings : Readings} (harmless : Harmless op)
    (unseen : ∀ reply, readings.next op reply = readings) : grounds.Stays readings (await op) :=
  Stays.perform ⟨permits_of_harmless harmless readings, unseen⟩

/-- The readings about the user are still the same. -/
def SameTick (tick : TickReading) (reached : Readings) : Prop := reached.tick = tick

section Policy

variable {readings : Readings} {tick : TickReading} {reading : PolicyReading}

/-- A decision on a token begins with what is read of its market. -/
theorem follows_readMarket (symbol : String) (same : SameTick tick readings) :
    grounds.Follows readings (await (.readMarket symbol))
      (ends (fun market reached => SameTick tick reached ∧
        reached.policy = some ⟨market, false, []⟩ ∧ reached.allowed = none) (SameTick tick)) :=
  Follows.perform trivial (fun _ => ⟨same, rfl, rfl⟩) fun _ => same

/-- The raw action of a decision, after the timeframes are compared. -/
theorem follows_multiTimeframe (symbol : String) {market : MarketReading}
    (same : SameTick tick readings) (read : readings.policy = some ⟨market, false, []⟩)
    (unasked : readings.allowed = none) :
    grounds.Follows readings (multiTimeframe symbol market.rawAction)
      (ends (fun action reached => SameTick tick reached ∧ reached.allowed = none ∧
        ∃ aligned, reached.policy = some ⟨market, aligned, []⟩ ∧
          (action = .buy ↔ market.rawAction = .buy ∧ aligned)) (SameTick tick)) := by
  cases action : market.rawAction with
  | buy =>
    have compares : grounds.Follows readings (await (.mtfAligned symbol))
        (ends (fun aligned reached => SameTick tick reached ∧ reached.allowed = none ∧
          reached.policy = some ⟨market, aligned, []⟩) (SameTick tick)) := by
      refine Follows.perform trivial (fun aligned => ⟨same, unasked, ?_⟩) fun _ => same
      show readings.policy.map _ = _
      rw [read]
      rfl
    refine Follows.bind compares fun aligned reached known => ?_
    refine ⟨known.1, known.2.1, aligned, known.2.2, ?_⟩
    cases aligned <;> simp
  | sell => exact ⟨same, unasked, false, read, by simp⟩
  | hold => exact ⟨same, unasked, false, read, by simp⟩

theorem follows_sizeOrder (symbol : String) {market : MarketReading} {aligned : Bool}
    {action : MetaAction} (same : SameTick tick readings)
    (read : readings.policy = some ⟨market, aligned, []⟩) (unasked : readings.allowed = none)
    (isBuy : action = .buy ↔ market.rawAction = .buy ∧ aligned) :
    grounds.Follows readings (sizeOrder symbol market.pUp defaultEquity action)
      (ends (fun size reached => SameTick tick reached ∧ reached.allowed = none ∧
        ∃ policy, reached.policy = some policy ∧ policy.orderSize = size ∧
          (0 < size → action = .buy)) (SameTick tick)) := by
  have nothing (notBuy : action ≠ .buy) : (⟨market, aligned, []⟩ : PolicyReading).orderSize = 0 :=
    if_neg (notBuy ∘ isBuy.mpr)
  cases action with
  | buy =>
    have finds : grounds.Follows readings (await (.findClosedPnls symbol))
        (ends (fun pnls reached => SameTick tick reached ∧ reached.allowed = none ∧
          reached.policy = some ⟨market, aligned, pnls⟩) (SameTick tick)) := by
      refine Follows.perform trivial (fun pnls => ⟨same, unasked, ?_⟩) fun _ => same
      show readings.policy.map _ = _
      rw [read]
      rfl
    refine Follows.bind finds fun pnls reached known => ?_
    exact ⟨known.1, known.2.1, _, known.2.2, if_pos (isBuy.mp rfl), fun _ => rfl⟩
  | sell =>
    exact ⟨same, unasked, _, read, nothing (by simp), fun sized => absurd sized (lt_irrefl 0)⟩
  | hold =>
    exact ⟨same, unasked, _, read, nothing (by simp), fun sized => absurd sized (lt_irrefl 0)⟩

theorem follows_askRiskGate (userId : String) {policy : PolicyReading} {action : MetaAction}
    (same : SameTick tick readings) (read : readings.policy = some policy)
    (unasked : readings.allowed = none) (isBuy : 0 < policy.orderSize → action = .buy) :
    grounds.Follows readings (askRiskGate userId action policy.orderSize)
      (ends (fun blocked reached => SameTick tick reached ∧
        (blocked = none → Cleared reached userId)) (SameTick tick)) := by
  unfold askRiskGate
  split
  · next sized =>
    have asks : grounds.Follows readings (await (.checkRisk userId policy.orderSize))
        (ends (fun verdict reached => SameTick tick reached ∧
          (verdict = .allowed → Cleared reached userId)) (SameTick tick)) := by
      refine Follows.perform trivial (fun verdict => ?_) fun _ => same
      cases verdict with
      | allowed => exact ⟨same, fun _ => ⟨policy, read, (if_pos sized.2).symm⟩⟩
      | denied reason => exact ⟨same, fun impossible => by cases impossible⟩
    refine Follows.bind asks fun verdict reached known => ?_
    cases verdict with
    | allowed => exact ⟨known.1, fun _ => known.2 rfl⟩
    | denied reason => exact ⟨known.1, fun impossible => by cases impossible⟩
  · next unsized =>
    refine ⟨same, fun _ => ⟨policy, read, ?_⟩⟩
    rw [unasked, if_neg fun positive => unsized ⟨isBuy positive, positive⟩]

theorem follows_decide (symbol userId : String) (same : SameTick tick readings) :
    grounds.Follows readings (decide symbol userId defaultEquity)
      (ends (fun policy reached => SameTick tick reached ∧
        (policy.blocked = none → Cleared reached userId)) (SameTick tick)) := by
  refine Follows.bind (follows_readMarket symbol same) fun market asked reads => ?_
  refine Follows.bind (follows_multiTimeframe symbol reads.1 reads.2.1 reads.2.2)
    fun action compared known => ?_
  obtain ⟨same, unasked, aligned, read, isBuy⟩ := known
  refine Follows.bind (follows_sizeOrder symbol same read unasked isBuy)
    fun size sized known => ?_
  obtain ⟨same, unasked, reading, read, rfl, isBuy⟩ := known
  refine Follows.bind (follows_askRiskGate userId same read unasked isBuy)
    fun blocked gated known => ?_
  have logs : grounds.Stays gated (recover (await (.createSignal symbol
      (if blocked.isSome then .hold else action))) fun _ => pure ()) :=
    Stays.recover (stays_await trivial fun _ => rfl) fun _ => rfl
  exact logs.andThen (fun _ => known) known.1

/-! ### The risk analyst and the council -/

theorem hold_of_miss {setup : Setup} {candidate : ScoredPick} {policy : MetaDecision}
    {decision : RiskDecision} (missed : setup.judge candidate policy = .miss decision) :
    decision.action = .hold := by
  unfold Setup.judge at missed
  dsimp only at missed
  split at missed
  · cases missed
    rfl
  · split at missed
    · cases missed
    · split_ifs at missed <;> (cases missed; rfl)

/-- Only a token that the risk gate does not block is bought. -/
theorem unblocked_of_settled {setup : Setup} {candidate : ScoredPick} {policy : MetaDecision}
    {decision : RiskDecision} (settled : setup.judge candidate policy = .settled decision)
    (isBuy : decision.action = .buy) : policy.blocked = none := by
  unfold Setup.judge at settled
  split at settled
  · cases settled
  · split at settled
    · cases settled
      cases isBuy
    · assumption

/-- The token that is bought is the last one that the policy was asked about. -/
theorem follows_tryCandidates (setup : Setup) (userId : String) (candidates : List ScoredPick)
    {firstMiss : Option RiskDecision} (missed : ∀ decision ∈ firstMiss, decision.action = .hold)
    (same : SameTick tick readings) :
    grounds.Follows readings (setup.tryCandidates userId defaultEquity candidates firstMiss)
      (ends (fun decision reached => SameTick tick reached ∧
        (decision.action = .buy → Cleared reached userId)) (SameTick tick)) := by
  induction candidates generalizing firstMiss readings with
  | nil =>
    refine ⟨same, fun isBuy => ?_⟩
    cases firstMiss with
    | none => cases isBuy
    | some decision =>
      rw [Option.getD_some, missed decision rfl] at isBuy
      cases isBuy
  | cons candidate rest inductionHypothesis =>
    refine Follows.bind (follows_decide _ userId same) fun policy reached known => ?_
    cases outcome : setup.judge candidate policy with
    | miss decision =>
      refine inductionHypothesis (fun other member => ?_) known.1
      cases firstMiss with
      | none =>
        cases member
        exact hold_of_miss outcome
      | some first => exact missed other member
    | settled decision =>
      exact ⟨known.1, fun isBuy => known.2 (unblocked_of_settled outcome isBuy)⟩

theorem follows_assess (userId : String) (settings : SuperMachineSettings) (openCount : ℕ)
    (openBases : List String) (same : SameTick tick readings) :
    grounds.Follows readings (assess userId settings openCount openBases)
      (ends (fun decision reached => SameTick tick reached ∧
        (decision.action = .buy → Cleared reached userId)) (SameTick tick)) := by
  refine Stays.andThen (stays_await trivial fun _ => rfl) (fun quant => ?_) same
  refine Stays.andThen (stays_await trivial fun _ => rfl) (fun oracle => ?_) same
  split
  · exact ⟨same, fun impossible => by cases impossible⟩
  · refine Stays.andThen (stays_await trivial fun _ => rfl) (fun suggestions => ?_) same
    refine Stays.andThen (stays_await trivial fun _ => rfl) (fun signals => ?_) same
    exact follows_tryCandidates _ userId _ (fun _ impossible => by cases impossible) same

theorem follows_evaluateJupiterRisk (userId : String) (settings : SuperMachineSettings)
    (openCount : ℕ) (openBases : List String) (same : SameTick tick readings) :
    grounds.Follows readings (evaluateJupiterRisk userId settings openCount openBases)
      (ends (fun decision reached => SameTick tick reached ∧
        (decision.action = .buy → Cleared reached userId)) fun _ => True) :=
  Follows.recover (follows_assess userId settings openCount openBases same)
    fun _ _ same => ⟨same, fun impossible => by cases impossible⟩

theorem stays_technicalSnapshot (pick : Option TradeSuggestion) :
    grounds.Stays readings (technicalSnapshot pick) := by
  cases pick with
  | none => exact Stays.done _
  | some pick => exact Stays.bind (stays_await trivial fun _ => rfl) fun _ => rfl

theorem stays_llmVote (risk : RiskDecision) : grounds.Stays readings (llmVote risk) := by
  unfold llmVote
  split
  · exact stays_await trivial fun _ => rfl
  · exact Stays.done _

theorem follows_councilEvaluate (userId : String) (settings : SuperMachineSettings)
    (openCount : ℕ) (openBases : List String) (same : SameTick tick readings) :
    grounds.Follows readings (councilEvaluate userId settings openCount openBases)
      (ends (fun evaluated reached => SameTick tick reached ∧
        (evaluated.1.action = .buy → Cleared reached userId)) fun _ => True) := by
  refine Follows.bind (follows_evaluateJupiterRisk userId settings openCount openBases
    same) fun risk reached known => ?_
  have recovers {op : Op} {value : Result op} (harmless : Harmless op)
      (unseen : ∀ reply, reached.next op reply = reached) :
      grounds.Stays reached (recover (await op) fun _ => pure value) :=
    Stays.recover (stays_await harmless unseen) fun _ => rfl
  refine Stays.andThen (recovers trivial fun _ => rfl) (fun accuracy => ?_) trivial
  refine Stays.andThen (recovers trivial fun _ => rfl) (fun winRate => ?_) trivial
  refine (stays_technicalSnapshot risk.pick).andThen (fun technical => ?_) trivial
  refine (stays_llmVote risk).andThen (fun llm => ?_) trivial
  exact ⟨known.1, fun isBuy => known.2 (buy_of_councilDecision isBuy)⟩

end Policy

/-! ### The tick -/

section Tick

variable {readings : Readings} {row refreshed : Config}

theorem stays_saveRaisedCap (saved effective : ℚ) :
    grounds.Stays readings (saveRaisedCap saved effective) := by
  unfold saveRaisedCap
  split
  · refine Stays.recover (Stays.bind ?_ fun _ => rfl) fun _ => rfl
    exact stays_await trivial fun _ => rfl
  · exact Stays.done ()

theorem follows_effectiveMaxTrade (due : Due readings.tick row refreshed)
    (unread : readings.tick.usdc = none) :
    grounds.Follows readings (effectiveMaxTrade row.toSettings)
      (ends (fun cap reached => Due reached.tick row refreshed ∧
        cap = reached.tick.maxTrade row) fun _ => True) := by
  unfold effectiveMaxTrade
  split
  · next locked =>
    exact ⟨due, (if_pos locked).symm⟩
  · next scanning =>
    have saved : readings.tick.maxTrade row = row.maxTradeUsd := by
      unfold TickReading.maxTrade
      rw [if_neg scanning, unread]
    have asks : grounds.Follows readings (await .getSolanaBalances)
        (ends (fun usdc reached =>
          reached = { readings with tick := { readings.tick with usdc := some usdc } })
          fun reached => reached = readings) :=
      Follows.perform trivial (fun _ => rfl) fun _ => rfl
    have reads : grounds.Follows readings readUsdc
        (ends (fun balance reached => Due reached.tick row refreshed ∧
          reached.tick.maxTrade row = (balance.map fun usdc =>
            max row.maxTradeUsd (walletMaxTradeUsd usdc)).getD row.maxTradeUsd) fun _ => True) := by
      refine Follows.recover (Follows.bind asks fun usdc reached is => ?_)
        fun _ reached is => ?_
      · rw [is]
        exact ⟨⟨due.rowRead, due.refreshedRead, due.tradesLeft, due.volumeLeft⟩, if_neg scanning⟩
      · rw [is]
        exact ⟨due, saved⟩
    refine Follows.bind reads fun balance reached known => ?_
    cases balance with
    | none => exact ⟨known.1, known.2.symm⟩
    | some usdc =>
      exact Stays.andThen (stays_saveRaisedCap _ _) (fun _ => ⟨known.1, known.2.symm⟩)
        trivial

/-! ### The entry -/

theorem harmless_logTrading : logTrading.Only Harmless :=
  only_recover (only_perform trivial) fun _ => trivial

theorem harmless_settleBuy (refreshed : Config) (request : SwapRequest) :
    (settleBuy refreshed request).Only Harmless := by
  refine only_then trivial fun now => only_then trivial fun _ => ?_
  refine only_bind ?_ fun _ => harmless_logTrading
  unfold recordFill
  split
  · exact only_perform trivial
  · trivial

theorem follows_executeBuy {request : SwapRequest} {confidence : ℚ} {stats : SuperMachineStats}
    (grounded : Grounded readings request row refreshed confidence stats) :
    grounds.Follows readings (executeBuy refreshed request) anywhere := by
  refine Stays.andThen (stays_await trivial fun _ => rfl) (fun live => ?_) trivial
  split
  · exact trivial
  · have swaps : grounds.Follows readings (await (.executeJupiterSwap request)) anywhere :=
      Follows.perform ⟨row, refreshed, confidence, stats, grounded⟩ (fun _ => trivial)
        fun _ => trivial
    have tries : grounds.Follows readings (trySwap request) anywhere :=
      Follows.recover (Follows.bind swaps fun _ _ _ => trivial) fun _ _ _ =>
        trivial
    refine Follows.bind tries fun filled reached _ => ?_
    split
    · exact anywhere_of_harmless (harmless_settleBuy refreshed request) reached
    · exact trivial

theorem follows_enter {pick : TradeSuggestion} {dynamicSize confidence : ℚ}
    {stats : SuperMachineStats}
    (grounded : Grounded readings (buyRequest pick dynamicSize) row refreshed confidence stats) :
    grounds.Follows readings (enter refreshed pick dynamicSize) anywhere := by
  refine Stays.andThen (stays_await trivial fun _ => rfl) (fun preview => ?_) trivial
  split
  · exact anywhere_of_harmless harmless_logTrading readings
  · refine Stays.andThen (stays_await trivial fun _ => rfl) (fun tpTarget => ?_) trivial
    split
    · exact trivial
    · exact follows_executeBuy grounded

theorem follows_publishTick (confidence : ℚ) (stats : SuperMachineStats) :
    grounds.Follows readings (publishTick confidence stats)
      (ends (fun _ reached => reached =
        { readings with published := some (confidence, stats) }) fun _ => True) := by
  refine Stays.andThen (stays_await trivial fun _ => rfl) (fun now => ?_) trivial
  refine Stays.andThen (stays_await trivial fun _ => rfl) (fun _ => ?_) trivial
  exact Follows.perform trivial (fun _ => rfl) fun _ => trivial

theorem follows_actOn {cap : ℚ} {stats : SuperMachineStats} {council : CouncilDecision}
    {decision : RiskDecision} (due : Due readings.tick row refreshed)
    (cleared : council.action = .buy → Cleared readings refreshed.userId)
    (published : readings.published = some (decision.confidence, stats))
    (isCap : cap = readings.tick.maxTrade row) :
    grounds.Follows readings (actOn refreshed cap stats council decision) anywhere := by
  unfold actOn
  split
  · next bought picked =>
    exact follows_enter ⟨due, cleared bought, published, by rw [isCap]; rfl⟩
  · exact trivial

theorem follows_scan (maxOpen : ℕ) (due : Due readings.tick row refreshed)
    (unread : readings.tick.usdc = none) :
    grounds.Follows readings (scan row.toSettings maxOpen refreshed) anywhere := by
  refine Follows.bind (follows_effectiveMaxTrade due unread) fun cap reached known => ?_
  obtain ⟨due, isCap⟩ := known
  refine Stays.andThen (stays_await trivial fun _ => rfl) (fun openCount => ?_) trivial
  refine Stays.andThen (Stays.bind (stays_await trivial fun _ => rfl)
    fun _ => rfl) (fun openBases => ?_) trivial
  refine Stays.andThen (Stays.bind (stays_await trivial fun _ => rfl)
    fun _ => rfl) (fun stats => ?_) trivial
  refine Follows.bind (follows_councilEvaluate refreshed.userId _ openCount openBases rfl)
    fun evaluated later known => ?_
  refine Follows.bind (follows_publishTick evaluated.2.confidence stats)
    fun _ last is => ?_
  rw [is]
  have sameTick : later.tick = reached.tick := known.1
  refine @follows_actOn _ row refreshed _ _ _ _ ?_ known.2 rfl ?_
  · show Due later.tick row refreshed
    rw [sameTick]
    exact due
  · show cap = later.tick.maxTrade row
    rw [sameTick]
    exact isCap

theorem follows_scanIfDue (maxOpen : ℕ) (rowRead : readings.tick.row = some row)
    (refreshedRead : readings.tick.refreshed = some refreshed)
    (unread : readings.tick.usdc = none) :
    grounds.Follows readings (scanIfDue row.toSettings maxOpen refreshed) anywhere := by
  unfold scanIfDue
  split
  · exact trivial
  · next tradesLeft =>
    split
    · exact trivial
    · next volumeLeft =>
      refine Stays.andThen (stays_await trivial fun _ => rfl) (fun now => ?_) trivial
      split
      · exact trivial
      · exact follows_scan maxOpen ⟨rowRead, refreshedRead, not_le.mp tradesLeft,
          not_le.mp volumeLeft⟩ unread

theorem stays_effectiveMaxOpen (settings : Settings) :
    grounds.Stays readings (effectiveMaxOpen settings) := by
  unfold effectiveMaxOpen
  split
  · exact Stays.bind (stays_await trivial fun _ => rfl) fun _ => rfl
  · exact Stays.done _

section

variable (today : String) (rowRead : readings.tick.row = some row)
  (refreshedRead : readings.tick.refreshed = some row) (unread : readings.tick.usdc = none)
include today rowRead refreshedRead unread

theorem follows_resetDailyCounters :
    grounds.Follows readings (resetDailyCountersIfNeeded today row)
      (ends (fun refreshed reached => reached.tick.row = some row ∧
        reached.tick.refreshed = some refreshed ∧ reached.tick.usdc = none) fun _ => True) := by
  unfold resetDailyCountersIfNeeded
  split
  · exact ⟨rowRead, refreshedRead, unread⟩
  · exact Follows.perform trivial (fun _ => ⟨rowRead, rfl, unread⟩) fun _ => trivial

theorem follows_tickUser :
    grounds.Follows readings (tickUser today row) anywhere := by
  unfold tickUser
  dsimp only
  split
  · exact trivial
  · refine Stays.andThen (stays_effectiveMaxOpen _) (fun maxOpen => ?_) trivial
    refine Follows.bind (follows_resetDailyCounters today rowRead refreshedRead unread)
      fun refreshed reached known => ?_
    exact follows_scanIfDue maxOpen known.1 known.2.1 known.2.2

end

end Tick

/-! ### Every swap -/

theorem anywhere_call (today : String) (request : Request) :
    grounds.Anywhere (request.call today) := by
  cases request with
  | tick =>
    intro readings
    have finds : grounds.Follows readings (await .findRunning)
        (ends (fun found reached => reached.tick = ⟨found, found, none⟩)
          fun _ => True) :=
      Follows.perform trivial (fun _ => rfl) fun _ => trivial
    refine Follows.bind finds fun found reached read => ?_
    cases found with
    | none => exact trivial
    | some row =>
      refine Follows.recover (follows_tickUser today ?_ ?_ ?_) fun _ _ _ => trivial <;>
      rw [read]
  | moveUsdc amount => exact anywhere_of_harmless (only_perform trivial)

/-- In every run every swap has its grounds. -/
theorem permits_of_mem_steps (today : String) (config : Config) (usdc : ℚ)
    (requests : List Request) (turns : List (Turn world)) :
    ∀ step ∈ (superMachine today config usdc requests).steps turns,
      grounds.permits (grounds.phase step.before step.caller) step.op :=
  permitted (System.each_call fun _ request => anywhere_call today request _) turns

/-! ### What no tick changes -/

/-- The user and the limits of the day, which the ticks leave as they are. -/
structure SameLimits (config row : Config) : Prop where
  userId : row.userId = config.userId
  maxDailyTrades : row.maxDailyTrades = config.maxDailyTrades
  maxDailyVolumeUsd : row.maxDailyVolumeUsd = config.maxDailyVolumeUsd

variable {config : Config}

theorem SameLimits.apply {row : Config} (same : SameLimits config row) (data : ConfigUpdate) :
    SameLimits config (data.apply row) := by
  obtain ⟨userId, maxDailyTrades, maxDailyVolumeUsd⟩ := same
  cases data <;> exact ⟨userId, maxDailyTrades, maxDailyVolumeUsd⟩

/-- The stored row and the rows that the ticks have read. -/
structure LimitsKept (config : Config) (moment : Moment world) : Prop where
  stored : SameLimits config moment.state.config
  row : ∀ caller, ∀ row ∈ (grounds.phase moment caller).tick.row, SameLimits config row
  refreshed : ∀ caller, ∀ row ∈ (grounds.phase moment caller).tick.refreshed, SameLimits config row

/-- A step leaves the row or makes one update of it. -/
theorem sameLimits_perform {machine : Machine} (same : SameLimits config machine.config) (op : Op)
    (fate : Fate op) : SameLimits config (perform op fate machine).1.config := by
  cases op with
  | updateConfig data =>
    dsimp only [perform, Async.Delivery.write]
    split
    · exact same.apply data
    · exact same
  | executeJupiterSwap request =>
    dsimp only [perform, executeSwap, Async.Delivery.write]
    split_ifs <;> exact same
  | _ => exact same

theorem sameLimits_next {machine : Machine} (same : SameLimits config machine.config)
    {readings : Readings} (rows : ∀ row ∈ readings.tick.row, SameLimits config row)
    (refreshed : ∀ row ∈ readings.tick.refreshed, SameLimits config row) (op : Op)
    (fate : Fate op) :
    (∀ row ∈ (readings.next op (perform op fate machine).2).tick.row, SameLimits config row) ∧
      ∀ row ∈ (readings.next op (perform op fate machine).2).tick.refreshed,
        SameLimits config row := by
  cases op with
  | findRunning =>
    cases fate with
    | answered =>
      have stored : ∀ row ∈ (if machine.config.enabled ∧ ¬ machine.config.emergencyStop then
          some machine.config else none), SameLimits config row := by
        intro row member
        split at member
        · cases member
          exact same
        · cases member
      exact ⟨stored, stored⟩
    | _ => exact ⟨rows, refreshed⟩
  | updateConfig data =>
    cases data with
    | resetCounters dayKey =>
      cases fate with
      | answered =>
        refine ⟨rows, fun row member => ?_⟩
        cases member
        exact same.apply (.resetCounters dayKey)
      | _ => exact ⟨rows, refreshed⟩
    | _ => exact ⟨rows, refreshed⟩
  | getSolanaBalances => cases fate <;> exact ⟨rows, refreshed⟩
  | readMarket symbol => cases fate <;> exact ⟨rows, refreshed⟩
  | findClosedPnls symbol => cases fate <;> exact ⟨rows, refreshed⟩
  | checkRisk userId orderSizeUsdt =>
    dsimp only [perform]
    generalize GateRun.verdict fate userId orderSizeUsdt = verdict
    rcases verdict with failure | _ | reason <;> exact ⟨rows, refreshed⟩
  | _ => exact ⟨rows, refreshed⟩

theorem limitsKept_after (step : Step world) (kept : LimitsKept config step.before) :
    LimitsKept config step.after where
  stored := sameLimits_perform kept.stored step.op step.fate
  row := by
    intro caller
    by_cases mine : caller = step.caller
    · rw [mine, phase_after_self]
      exact (sameLimits_next kept.stored (kept.row _) (kept.refreshed _) step.op step.fate).1
    · rw [phase_after_other step mine]
      exact kept.row caller
  refreshed := by
    intro caller
    by_cases mine : caller = step.caller
    · rw [mine, phase_after_self]
      exact (sameLimits_next kept.stored (kept.row _) (kept.refreshed _) step.op step.fate).2
    · rw [phase_after_other step mine]
      exact kept.refreshed caller

/-- In every run every tick goes by the user and the limits of the row. -/
theorem limitsKept_of_mem_steps (today : String) (config : Config) (usdc : ℚ)
    (requests : List Request) (turns : List (Turn world)) :
    ∀ step ∈ (superMachine today config usdc requests).steps turns,
      LimitsKept config step.before := by
  have start : LimitsKept config (superMachine today config usdc requests).moment :=
    ⟨⟨rfl, rfl, rfl⟩, fun _ _ none => (by cases none), fun _ _ none => (by cases none)⟩
  exact (@System.run_keeps world Unit (LimitsKept config) (fun _ => True) _
    (fun step kept _ => ⟨kept, limitsKept_after step kept⟩) _ start turns fun _ _ => trivial).2

end GdslExchange.SuperMachine
