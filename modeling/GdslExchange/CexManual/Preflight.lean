/-
This file settles when a preflight that is ok promises that the order passes the gates of the
order service: if the risk rule that the service picks allows the order, which the preflight
does not look at, and the symbol takes the quantity of a SELL, of whose step and greatest lot
the preflight checks nothing. The quantity of a SELL never exceeds the free balance.
-/

import GdslExchange.CexManual.Preview
import GdslExchange.Orders.Limits

namespace GdslExchange.CexManual

open Async (Delivery)
open Async.Program hiding await
open Cex (ManualTradeRequest Side)
open Numeric
open Orders (CreateOrderInput Desk RiskRule SymbolRules adjustQuantityToLotSize choose
  closedTradesSince countDecimals enabledRules latestRules lotTolerance normalizedQuantity oms
  sizedQuantity startOfUtcDay totalPnl truthy)

/-! ### What the order service asks for -/

section Gates

variable (fates : Orders.Fates) (desk : Desk)

def pickedRule (userId : String) : Option RiskRule :=
  choose (fates (.findLatestRiskRule userId)).position
    (latestRules (enabledRules desk.riskRules userId))

/-- What the closed trades of the day add up to. -/
def dailyPnl (userId : String) : ℚ :=
  totalPnl (closedTradesSince desk.trades userId (startOfUtcDay (fates .now)))

/-- The rule that the risk check picks allows an order of this notional today. -/
def RiskAllows (userId : String) (notional : ℚ) : Prop :=
  ∀ rule ∈ pickedRule fates desk userId,
    (∀ limit ∈ rule.maxOrderNotional, notional ≤ limit) ∧
      ∀ loss ∈ rule.maxDailyLoss, -|loss| < dailyPnl fates desk userId

/-- The symbol has a step, and takes this quantity. -/
def LotAllows (rules : Option SymbolRules) (quantity : ℚ) : Prop :=
  ∀ found ∈ rules, 0 < found.lot.stepSize.value ∧
    quantity ≤ found.lot.maxQty.value + lotTolerance

instance (userId : String) (notional : ℚ) : Decidable (RiskAllows fates desk userId notional) := by
  unfold RiskAllows; infer_instance

instance (rules : Option SymbolRules) (quantity : ℚ) : Decidable (LotAllows rules quantity) := by
  unfold LotAllows; infer_instance

/-- The reads of the order service are answered. -/
structure Answered : Prop where
  connection : ∀ id userId, fates (.findConnection id userId) = Delivery.answered
  rule : ∀ userId, (fates (.findLatestRiskRule userId)).delivery = .answered
  trades : ∀ userId since, fates (.findClosedTrades userId since) = Delivery.answered

end Gates

/-! ### The risk check -/

section Risk

variable {fates : Orders.Fates} {desk : Desk} {input : Orders.RiskCheckInput}

theorem exec_deny_ne {event : Orders.RiskEvent} {reached : Desk} :
    (Orders.deny event).exec fates desk ≠ (reached, .ok .allowed) := by
  intro ran
  obtain ⟨between, _, -, rest⟩ := exec_bind_returned ran
  cases rest

theorem exec_findClosedTrades (answered : Answered fates) (userId : String) (since : ℕ) :
    (Orders.await (.findClosedTrades userId since)).exec fates desk =
      (desk, .ok (closedTradesSince desk.trades userId since)) := by
  rw [Orders.exec_await, answered.trades]
  rfl

theorem exec_findLatestRiskRule (answered : Answered fates) (userId : String) :
    (Orders.await (.findLatestRiskRule userId)).exec fates desk =
      (desk, .ok (pickedRule fates desk userId)) := by
  rw [Orders.exec_await]
  simp only [Orders.perform, answered.rule]
  rfl

theorem exec_checkDailyLoss_iff (answered : Answered fates) {limit : Option ℚ} {reached : Desk} :
    (Orders.checkDailyLoss input limit).exec fates desk = (reached, .ok .allowed) ↔
      reached = desk ∧ ∀ loss ∈ limit, -|loss| < dailyPnl fates desk input.userId := by
  have returns : (done .allowed : Orders.Call Orders.RiskVerdict).exec fates desk =
      (reached, .ok .allowed) ↔ reached = desk := by
    rw [exec_done, Prod.mk.injEq]
    exact ⟨fun same => same.1.symm, fun same => ⟨same.symm, rfl⟩⟩
  cases limit with
  | none => exact returns.trans ⟨fun same => ⟨same, fun _ => nofun⟩, And.left⟩
  | some loss =>
    unfold Orders.checkDailyLoss
    rw [exec_bind_ok (Orders.exec_now rfl), exec_bind_ok (exec_findClosedTrades answered _ _)]
    show exec fates (if dailyPnl fates desk input.userId ≤ -|loss| then _
      else (done .allowed : Orders.Call Orders.RiskVerdict)) desk = _ ↔ _
    simp only [Option.mem_def, Option.some.injEq, forall_eq']
    by_cases isOver : dailyPnl fates desk input.userId ≤ -|loss|
    · rw [if_pos isOver]
      exact ⟨fun ran => (exec_deny_ne ran).elim, fun above => absurd above.2 (not_lt.mpr isOver)⟩
    · rw [if_neg isOver, returns]
      exact ⟨fun same => ⟨same, not_le.mp isOver⟩, And.left⟩

theorem exec_checkRisk_iff (answered : Answered fates) {reached : Desk} :
    (Orders.checkRisk input).exec fates desk = (reached, .ok .allowed) ↔
      reached = desk ∧ RiskAllows fates desk input.userId input.notional := by
  unfold Orders.checkRisk
  rw [exec_bind_ok (exec_findLatestRiskRule answered input.userId)]
  unfold RiskAllows
  cases pickedRule fates desk input.userId with
  | none =>
    show (done .allowed : Orders.Call Orders.RiskVerdict).exec fates desk = _ ↔ _
    rw [exec_done, Prod.mk.injEq]
    exact ⟨fun same => ⟨same.1.symm, fun _ => nofun⟩, fun same => ⟨same.1.symm, rfl⟩⟩
  | some rule =>
    simp only [Option.mem_def, Option.some.injEq, forall_eq']
    cases isLimit : rule.maxOrderNotional with
    | none =>
      refine (exec_checkDailyLoss_iff answered).trans (and_congr_right fun _ => ?_)
      exact ⟨fun above => ⟨fun _ => nofun, above⟩, And.right⟩
    | some limit =>
      simp only [Option.some.injEq, forall_eq']
      by_cases isOver : input.notional > limit
      · rw [if_pos isOver]
        refine ⟨fun ran => (exec_deny_ne ran).elim, fun allows => ?_⟩
        exact absurd allows.2.1 (not_le.mpr isOver)
      · rw [if_neg isOver]
        refine (exec_checkDailyLoss_iff answered).trans (and_congr_right fun _ => ?_)
        exact ⟨fun above => ⟨not_lt.mp isOver, above⟩, And.right⟩

end Risk

/-! ### The size of the order -/

section Size

variable {fates : Orders.Fates} {desk : Desk} {input : CreateOrderInput}
  {rules : Option SymbolRules}

theorem exec_requireMinNotional_below {found : SymbolRules} {notional : ℚ} {label symbol : String}
    (below : Orders.BelowMinimum found notional) :
    ∃ message, (Orders.requireMinNotional found notional label symbol).exec fates desk =
      (desk, .error message) := by
  unfold Orders.requireMinNotional throwIf
  unfold Orders.BelowMinimum at below
  rw [if_pos below]
  exact ⟨_, rfl⟩

theorem exec_normalizeBaseQuantity_none
    (isRules : fates (.tryGetBinanceSymbolRules input.symbol) = rules)
    (unsized : normalizedQuantity input rules = none) :
    ∃ message, (Orders.normalizeBaseQuantity input.symbol input.quantity
      (input.price.getD 0)).exec fates desk = (desk, .error message) := by
  unfold Orders.normalizeBaseQuantity
  rw [exec_bind_ok (Orders.exec_rules isRules)]
  unfold normalizedQuantity at unsized
  cases rules with
  | none => cases unsized
  | some found =>
    simp only at unsized ⊢
    cases adjusted : adjustQuantityToLotSize input.quantity found with
    | error message => exact ⟨message, rfl⟩
    | ok qtyStr =>
      rw [adjusted] at unsized
      simp only at unsized ⊢
      split at unsized
      next isBelow =>
        obtain ⟨message, thrown⟩ := exec_requireMinNotional_below isBelow.2
        rw [if_pos isBelow.1]
        exact ⟨message, exec_bind_error thrown⟩
      · cases unsized

theorem exec_submitQuantity_none
    (isRules : fates (.tryGetBinanceSymbolRules input.symbol) = rules)
    (unsized : sizedQuantity input rules = none) :
    ∃ message, (Orders.submitQuantity input).exec fates desk = (desk, .error message) := by
  unfold Orders.submitQuantity
  unfold sizedQuantity at unsized
  cases amount : truthy input.quoteOrderQty with
  | none =>
    rw [amount] at unsized
    obtain ⟨message, thrown⟩ := exec_normalizeBaseQuantity_none isRules unsized
    exact ⟨message, exec_bind_error thrown⟩
  | some quote =>
    rw [amount] at unsized
    simp only
    rw [exec_bind_ok (Orders.exec_rules isRules)]
    cases rules with
    | none => cases unsized
    | some found =>
      simp only at unsized ⊢
      split at unsized
      next isBelow =>
        obtain ⟨message, thrown⟩ := exec_requireMinNotional_below isBelow.2
        rw [if_pos isBelow.1]
        exact ⟨message, exec_bind_error thrown⟩
      · cases unsized

theorem exec_submitQuantity_iff
    (isRules : fates (.tryGetBinanceSymbolRules input.symbol) = rules) {reached : Desk}
    {quantity : ℚ} : (Orders.submitQuantity input).exec fates desk = (reached, .ok quantity) ↔
      reached = desk ∧ sizedQuantity input rules = some quantity := by
  cases sized : sizedQuantity input rules with
  | none =>
    obtain ⟨message, thrown⟩ := @exec_submitQuantity_none fates desk input rules isRules sized
    rw [thrown]
    exact ⟨nofun, nofun⟩
  | some found =>
    rw [Orders.exec_submitQuantity isRules sized, Prod.mk.injEq, Except.ok.injEq,
      Option.some.injEq]
    exact and_congr_left fun _ => eq_comm

/-- An order passes the gates with a quantity exactly when its connection may trade, the picked
rule allows it and the symbol takes it at that quantity. -/
theorem exec_prepareOrder_iff (answered : Answered fates)
    (isRules : fates (.tryGetBinanceSymbolRules input.symbol) = rules) {reached : Desk}
    {connection : Orders.ExchangeConnection}
    (isConnection : desk.connections.find? (fun row => row.id = input.exchangeConnectionId ∧
      row.userId = input.userId ∧ row.isActive) = some connection)
    (canTrade : connection.canTrade) {prepared : Orders.ExchangeConnection × ℚ} :
    (Orders.prepareOrder input).exec fates desk = (reached, .ok prepared) ↔
      reached = desk ∧ prepared.1 = connection ∧
        RiskAllows fates desk input.userId input.riskCheck.notional ∧
          sizedQuantity input rules = some prepared.2 := by
  have found : (Orders.await (.findConnection input.exchangeConnectionId input.userId)).exec
      fates desk = (desk, .ok (some connection)) := by
    rw [Orders.exec_await]
    simp only [Orders.perform, answered.connection]
    rw [isConnection]
    rfl
  have permitted : (throwIf (¬ connection.canTrade = true)
      "This exchange key has no trade permissions" : Orders.Call Unit).exec fates desk =
        (desk, .ok ()) := by
    unfold throwIf
    rw [if_neg (not_not.mpr canTrade)]
    rfl
  have connected : (orThrow (some connection) "Exchange connection not found" :
      Orders.Call Orders.ExchangeConnection).exec fates desk = (desk, .ok connection) := rfl
  unfold Orders.prepareOrder
  rw [exec_bind_ok found, exec_bind_ok connected, exec_bind_ok permitted]
  constructor
  · intro ran
    obtain ⟨checked, verdict, ranCheck, rest⟩ := exec_bind_returned ran
    cases verdict with
    | denied reason =>
      obtain ⟨_, _, impossible, _⟩ := exec_bind_returned rest
      cases impossible
    | allowed =>
      obtain ⟨rfl, allows⟩ := (exec_checkRisk_iff answered).mp ranCheck
      obtain ⟨_, _, ⟨⟩, sizing⟩ := exec_bind_returned rest
      obtain ⟨sized, quantity, ranSize, last⟩ := exec_bind_returned sizing
      obtain ⟨rfl, isSized⟩ := (exec_submitQuantity_iff isRules).mp ranSize
      cases last
      exact ⟨rfl, rfl, allows, isSized⟩
  · rintro ⟨rfl, isPrepared, allows, isSized⟩
    have checked : (Orders.checkRisk input.riskCheck).exec fates reached =
        (reached, .ok .allowed) := (exec_checkRisk_iff answered).mpr ⟨rfl, allows⟩
    have sized : (Orders.submitQuantity input).exec fates reached = (reached, .ok prepared.2) :=
      (exec_submitQuantity_iff isRules).mpr ⟨rfl, isSized⟩
    refine (exec_bind_ok checked).trans ((exec_bind_ok rfl).trans ((exec_bind_ok sized).trans ?_))
    rw [← isPrepared]
    rfl

end Size

/-! ### What an ok preflight has seen -/

theorem push_eq_nil_iff {condition : Prop} [Decidable condition] {message : String} :
    push condition message = [] ↔ ¬ condition := by
  unfold push
  split
  next holds => exact ⟨nofun, fun fails => absurd holds fails⟩
  next fails => exact ⟨fun _ => fails, fun _ => rfl⟩

section Seen

variable {env : Env} {request : ManualTradeRequest} {seen : Readings}

theorem common_of_ok (isOk : (preflight env request seen).ok) :
    (∃ id, seen.connectionId = some id ∧ id ≠ "") ∧
      ∃ price, estPriceOf request.side seen.book = some price ∧ 0 < price := by
  have empty := List.length_eq_zero_iff.mp (of_decide_eq_true isOk)
  obtain ⟨common, -⟩ := List.append_eq_nil_iff.mp empty
  unfold commonBlockers at common
  simp only [List.append_eq_nil_iff, push_eq_nil_iff] at common
  obtain ⟨⟨⟨connected, -⟩, -⟩, priced⟩ := common
  refine ⟨?_, ?_⟩
  · obtain ⟨id, isId⟩ := Option.ne_none_iff_exists'.mp connected
    rw [Option.filter_eq_some_iff] at isId
    exact ⟨id, isId.1, of_decide_eq_true isId.2⟩
  · cases isPrice : estPriceOf request.side seen.book with
    | none =>
      rw [isPrice] at priced
      exact (priced rfl).elim
    | some price =>
      rw [isPrice] at priced
      exact ⟨price, rfl, not_le.mp fun free => priced (decide_eq_true free)⟩

theorem buy_of_ok (isBuy : request.side = .buy) (isOk : (preflight env request seen).ok) :
    0 < request.quoteOrderQty.getD 0 ∧ ¬ TooSmall seen.rules (request.quoteOrderQty.getD 0) := by
  have empty := List.length_eq_zero_iff.mp (of_decide_eq_true isOk)
  obtain ⟨-, own⟩ := List.append_eq_nil_iff.mp empty
  rw [isBuy] at own
  unfold buyBlockers at own
  simp only at own
  split at own
  · cases own
  next positive =>
    simp only [List.append_eq_nil_iff, push_eq_nil_iff] at own
    exact ⟨not_le.mp positive, own.2⟩

theorem sell_of_ok (isSell : request.side = .sell) (isOk : (preflight env request seen).ok) :
    requestedQuantity request seen.balances.freeBase ≤ seen.balances.freeBase ∧
      ¬ BelowMinQty seen.rules (sellQuantity request seen) ∧
        ∀ price ∈ estPriceOf .sell seen.book,
          ¬ TooSmall seen.rules (sellQuantity request seen * price) := by
  have empty := List.length_eq_zero_iff.mp (of_decide_eq_true isOk)
  obtain ⟨-, own⟩ := List.append_eq_nil_iff.mp empty
  rw [isSell] at own
  unfold sellBlockers at own
  simp only [List.append_eq_nil_iff, push_eq_nil_iff] at own
  obtain ⟨⟨sized, reaches⟩, worth⟩ := own
  refine ⟨?_, reaches, fun price isPrice small => worth ⟨_, Option.mem_map_of_mem _ isPrice, small⟩⟩
  split at sized
  · cases sized
  · exact not_lt.mp (push_eq_nil_iff.mp sized)

theorem wholeSteps_le (rules : SymbolRules) (quantity : ℚ) : wholeSteps rules quantity ≤ quantity := by
  unfold wholeSteps
  simp only
  split
  next positive => exact (le_div_iff₀ positive).mp (Int.floor_le _)
  · rfl

theorem sellQuantity_le (isSell : request.side = .sell) (isOk : (preflight env request seen).ok) :
    sellQuantity request seen ≤ seen.balances.freeBase := by
  obtain ⟨within, -, -⟩ := sell_of_ok isSell isOk
  unfold sellQuantity
  simp only
  split
  · exact within
  · exact (wholeSteps_le _ _).trans within

def orderOf (env : Env) (userId id : String) (request : ManualTradeRequest) (seen : Readings) :
    CreateOrderInput :=
  orderInput userId (Cex.manualRequest id (preflight env request seen).toManualPreflight)

theorem sizedQuantity_buy {userId id : String} (isBuy : request.side = .buy)
    (isOk : (preflight env request seen).ok) :
    sizedQuantity (orderOf env userId id request seen) seen.rules =
      some (request.quoteOrderQty.getD 0) := by
  obtain ⟨positive, enough⟩ := buy_of_ok isBuy isOk
  have isQuote : (orderOf env userId id request seen).quoteOrderQty =
      some (request.quoteOrderQty.getD 0) := by
    simp only [orderOf, orderInput, Cex.manualRequest, preflight, isBuy]
  have isQuantity : (orderOf env userId id request seen).quantity =
      request.quoteOrderQty.getD 0 := by
    simp only [orderOf, orderInput, Cex.manualRequest, preflight, isBuy, Option.getD_some]
  have isTruthy : truthy (some (request.quoteOrderQty.getD 0)) =
      some (request.quoteOrderQty.getD 0) := by
    rw [truthy, Option.filter_some, if_pos (decide_eq_true positive.ne')]
  unfold sizedQuantity
  rw [isQuote, isTruthy, isQuantity]
  cases isRules : seen.rules with
  | none => rfl
  | some found =>
    simp only
    rw [if_neg]
    rintro ⟨required, below⟩
    refine enough ⟨found, isRules, required, ?_⟩
    unfold Orders.BelowMinimum at below
    linarith

theorem sizedQuantity_sell {userId id : String} (isSell : request.side = .sell)
    (isOk : (preflight env request seen).ok) {quantity : ℚ} :
    sizedQuantity (orderOf env userId id request seen) seen.rules = some quantity ↔
      LotAllows seen.rules (sellQuantity request seen) ∧ quantity = sellQuantity request seen := by
  obtain ⟨-, reaches, worth⟩ := sell_of_ok isSell isOk
  obtain ⟨-, price, isPrice, positive⟩ := common_of_ok isOk
  rw [isSell] at isPrice
  have isQuote : (orderOf env userId id request seen).quoteOrderQty = none := by
    simp only [orderOf, orderInput, Cex.manualRequest, preflight, isSell]
  have isQuantity : (orderOf env userId id request seen).quantity = sellQuantity request seen := by
    simp only [orderOf, orderInput, Cex.manualRequest, preflight, isSell, Option.getD_some]
  have isReference : (orderOf env userId id request seen).price.getD 0 = price := by
    simp only [orderOf, orderInput, Cex.manualRequest, preflight, isSell, isPrice, Option.getD_some]
  unfold sizedQuantity normalizedQuantity LotAllows
  rw [isQuote, isQuantity, isReference]
  cases isRules : seen.rules with
  | none =>
    simp only [truthy, Option.filter_none, Option.some.injEq]
    exact ⟨fun same => ⟨fun _ inNone => absurd inNone (Option.not_mem_none _), same.symm⟩,
      fun same => same.2.symm⟩
  | some found =>
    simp only [truthy, Option.filter_none, Option.mem_def, Option.some.injEq, forall_eq']
    by_cases stepped : 0 < found.lot.stepSize.value
    · obtain ⟨steps, isSteps⟩ : ∃ steps : ℤ,
          sellQuantity request seen = steps * found.lot.stepSize.value := by
        unfold sellQuantity wholeSteps
        rw [isRules]
        simp only [gt_iff_lt, if_pos stepped]
        exact ⟨_, rfl⟩
      have least : found.lot.minQty.value ≤ steps * found.lot.stepSize.value := by
        rw [← isSteps]
        exact not_lt.mp fun below => reaches ⟨found, isRules, below⟩
      have adjusted := Orders.adjustQuantityToLotSize_steps stepped least
      rw [← isSteps] at adjusted
      split at adjusted
      next within =>
        obtain ⟨qtyStr, isAdjusted, isValue⟩ := adjusted
        have enough : ¬ ((found.minNotional > 0 ∧ price > 0) ∧
            Orders.BelowMinimum found (Orders.notionalForQuantity qtyStr price)) := by
          rintro ⟨⟨required, -⟩, below⟩
          refine worth price isPrice ⟨found, isRules, required, ?_⟩
          unfold Orders.BelowMinimum Orders.notionalForQuantity at below
          rw [isValue] at below
          linarith
        rw [isAdjusted]
        simp only [if_neg enough, isValue, Option.some.injEq]
        exact ⟨fun same => ⟨⟨stepped, within⟩, same.symm⟩, fun same => same.2.symm⟩
      next isOver =>
        obtain ⟨message, isAdjusted⟩ := adjusted
        rw [isAdjusted]
        exact ⟨fun isSome => absurd isSome.symm (Option.some_ne_none quantity),
          fun allows => absurd allows.1.2 isOver⟩
    · have isAdjusted : adjustQuantityToLotSize (sellQuantity request seen) found =
          .error "Invalid stepSize" := by
        unfold adjustQuantityToLotSize
        simp only [if_pos (not_lt.mp stepped)]
      rw [isAdjusted]
      exact ⟨fun isSome => absurd isSome.symm (Option.some_ne_none quantity),
        fun allows => absurd allows.1.1 stepped⟩

end Seen

/-! ### From the preflight to the gates -/

/-- What the preflight awaits writes nothing. -/
def Reading : Op → Prop
  | .order (.tryGetBinanceSymbolRules _) => True
  | .order _ => False
  | _ => True

theorem perform_of_reading {op : Op} (reads : Reading op) (fate : Fate op) (account : Account) :
    (perform op fate account).1 = account := by
  cases op with
  | order op =>
    cases op with
    | tryGetBinanceSymbolRules symbol => rfl
    | _ => exact reads.elim
  | _ => rfl

theorem only_resolveConnectionId (userId : String) :
    (resolveConnectionId userId).Only Reading :=
  only_then trivial fun _ => trivial

theorem only_computeAutomationReadiness (env : Env) (userId : String) (selected : Option String) :
    (computeAutomationReadiness env userId selected).Only Reading := by
  refine only_then trivial fun riskRule => ?_
  exact only_then trivial fun _ => trivial

theorem only_await {op : Op} (reads : Reading op) : (await op).Only Reading := only_perform reads

theorem only_loadBalances (userId : String) (connectionId : Option String) (baseAsset : String) :
    (loadBalances userId connectionId baseAsset).Only Reading := by
  unfold loadBalances
  split
  · trivial
  · refine only_then trivial fun found => ?_
    cases found with
    | none => trivial
    | some conn =>
      refine only_recover ?_ fun _ => trivial
      refine only_then trivial fun apiKey => ?_
      refine only_then trivial fun apiSecret => ?_
      exact only_then trivial fun _ => trivial

section Observed

variable {fates : (op : Op) → Fate op} {account : Account} {env : Env} {userId : String}
  {request : ManualTradeRequest} {seen : Readings}

theorem state_of_reading {Value : Type} {program : Call Value} {reached : Account}
    {result : Except String Value} (ran : program.exec fates account = (reached, result))
    (reads : program.Only Reading) : reached = account := by
  have kept : (program.exec fates account).1 = account := by
    refine @exec_keeps terminal _ fates Reading (fun state => state = account) ?_ program reads
      account rfl
    intro op state isReading same
    exact (perform_of_reading isReading _ _).trans same
  rw [ran] at kept
  exact kept

theorem readings_of_exec {reached : Account}
    (observed : (readForPreview env userId request).exec fates account = (reached, .ok seen)) :
    reached = account ∧
      (resolveConnectionId userId).exec fates account = (account, .ok seen.connectionId) ∧
        fates (.order (.tryGetBinanceSymbolRules (resolvedOf request seen.balances).symbol)) =
          seen.rules := by
  obtain ⟨connected, connectionId, ranConnection, loading⟩ := exec_bind_returned observed
  obtain rfl := state_of_reading ranConnection (only_resolveConnectionId userId)
  obtain ⟨loaded, balances, ranBalances, readying⟩ := exec_bind_returned loading
  obtain rfl := state_of_reading ranBalances (only_loadBalances _ _ _)
  obtain ⟨readied, readiness, ranReadiness, quoting⟩ := exec_bind_returned readying
  obtain rfl := state_of_reading ranReadiness (only_computeAutomationReadiness _ _ _)
  obtain ⟨quoted, book, ranBook, ruling⟩ := exec_bind_returned quoting
  obtain rfl := state_of_reading ranBook (only_recover (only_await trivial) fun _ => trivial)
  obtain ⟨ruled, rules, ranRules, voting⟩ := exec_bind_returned ruling
  obtain rfl := state_of_reading ranRules (only_await trivial)
  obtain ⟨voted, tech, ranTech, last⟩ := exec_bind_returned voting
  obtain rfl := state_of_reading ranTech (only_await trivial)
  cases last
  cases ranRules
  exact ⟨rfl, ranConnection, rfl⟩

theorem connection_of_exec {id : String}
    (ran : (resolveConnectionId userId).exec fates account = (account, .ok (some id))) :
    ∃ connection : Orders.ExchangeConnection, connection.canTrade ∧
      account.desk.connections.find? (fun row => row.id = id ∧ row.userId = userId ∧
        row.isActive) = some connection := by
  obtain ⟨between, found, ranRead, last⟩ := exec_bind_returned ran
  obtain ⟨row, isRow, rfl⟩ : ∃ row, found = some row ∧ row.id = id := by
    have isId := congrArg Prod.snd last
    rw [exec_pure, Except.ok.injEq, Option.map_eq_some_iff] at isId
    exact isId
  have chosen : choose (fates (.findTradeConnection userId)).position
      (latest ConnectionRow.updatedAt (tradeOnly account.connections userId)) = some row := by
    have answer := congrArg Prod.snd ((exec_perform _ _).symm.trans ranRead)
    rw [isRow] at answer
    revert answer
    simp only [perform, Delivery.read]
    cases (fates (.findTradeConnection userId)).delivery with
    | answered => exact fun answer => Except.ok.inj answer
    | refused message =>
      intro answer
      cases answer
    | lost message =>
      intro answer
      cases answer
  have isLatest := (List.mem_filter.mp (Orders.mem_of_choose chosen)).1
  obtain ⟨isBinance, usable⟩ := List.mem_filter.mp isLatest
  obtain ⟨member, active⟩ := List.mem_filter.mp isBinance
  obtain ⟨isUser, isActive, -⟩ := of_decide_eq_true active
  refine ⟨row.toExchangeConnection, (of_decide_eq_true usable).1, ?_⟩
  rw [account.sameConnections, List.find?_map]
  cases isFound : account.connections.find? ((fun row : Orders.ExchangeConnection =>
      decide (row.id = _ ∧ row.userId = userId ∧ row.isActive = true)) ∘
        ConnectionRow.toExchangeConnection) with
  | none =>
    have missing := List.find?_eq_none.mp isFound row member
    exact absurd (decide_eq_true ⟨rfl, isUser, isActive⟩) missing
  | some other =>
    have holds := List.find?_some isFound
    obtain ⟨sameId, -, -⟩ := of_decide_eq_true holds
    rw [List.inj_on_of_nodup_map account.uniqueIds (List.mem_of_find?_eq_some isFound) member
      sameId]
    rfl

/-- A trade whose preflight is ok goes on with the order it has shown. -/
theorem exec_manualOrder
    (observed : (readForPreview env userId request).exec fates account = (account, .ok seen))
    (isOk : (preflight env request seen).ok) {id : String} (isId : seen.connectionId = some id)
    (nonempty : id ≠ "") : (manualOrder env userId request).exec fates account =
      (account, .ok (orderOf env userId id request seen)) := by
  obtain ⟨-, connected, -⟩ := readings_of_exec observed
  rw [isId] at connected
  have previewed : (previewManualTrade env userId request).exec fates account =
      (account, .ok (preflight env request seen)) := (exec_bind_ok observed).trans rfl
  have passes : (throwIf ((!(preflight env request seen).ok) = true)
      ((preflight env request seen).blockers.head?.getD "Manual trade preflight failed") :
        Call Unit).exec fates account = (account, .ok ()) := by
    unfold throwIf
    rw [if_neg (by rw [isOk]; decide)]
    rfl
  unfold manualOrder
  rw [exec_bind_ok previewed, exec_bind_ok passes, exec_bind_ok connected,
    Option.filter_some, if_pos (decide_eq_true nonempty)]
  rfl

/-- An embedded call of the order service returns what it returns alone. -/
theorem exists_exec_embed_iff {Value : Type} {program : Orders.Call Value} {value : Value} :
    (∃ left, (orderService.embed program).exec fates account = (left, .ok value)) ↔
      ∃ left, program.exec (orderService.fates fates) account.desk = (left, .ok value) := by
  obtain ⟨-, sameResult⟩ := orderService.exec_embed fates program account
  have unchanged : ((program.exec (orderService.fates fates) account.desk).2).mapError
      orderService.failure = (program.exec (orderService.fates fates) account.desk).2 := by
    cases (program.exec (orderService.fates fates) account.desk).2 <;> rfl
  replace sameResult := sameResult.trans unchanged
  constructor
  · rintro ⟨left, ran⟩
    rw [ran] at sameResult
    exact ⟨_, Prod.ext rfl sameResult.symm⟩
  · rintro ⟨left, ran⟩
    rw [ran] at sameResult
    exact ⟨_, Prod.ext rfl sameResult⟩

def orderNotional (request : ManualTradeRequest) (seen : Readings) : ℚ :=
  match request.side with
  | .buy => request.quoteOrderQty.getD 0
  | .sell => sellQuantity request seen * (estPriceOf .sell seen.book).getD 0

theorem notional_orderOf (isOk : (preflight env request seen).ok) (id : String) :
    (orderOf env userId id request seen).riskCheck.notional = orderNotional request seen := by
  obtain ⟨-, price, isPrice, positive⟩ := common_of_ok isOk
  unfold orderNotional
  cases isSide : request.side with
  | buy => simp [Orders.RiskCheckInput.notional, CreateOrderInput.riskCheck, orderOf, orderInput,
      Cex.manualRequest, preflight, isSide]
  | sell =>
    rw [isSide] at isPrice
    simp [Orders.RiskCheckInput.notional, CreateOrderInput.riskCheck, orderOf, orderInput,
      Cex.manualRequest, preflight, isSide, isPrice, positive.ne']

variable (fates account userId request seen) in
/-- The picked risk rule allows the order, and the symbol takes the quantity of a SELL. -/
def Admitted : Prop :=
  RiskAllows (orderService.fates fates) account.desk userId (orderNotional request seen) ∧
    (request.side = .sell → LotAllows seen.rules (sellQuantity request seen))

end Observed

/-! ### A user with a limit of 100 dollars an order -/

def adaConnection : ConnectionRow where
  id := "binance"
  userId := "ada"
  isActive := true
  canTrade := true
  encryptedApiKey := "key"
  encryptedSecret := "secret"
  label := none
  exchange := "BINANCE"
  canWithdraw := false
  updatedAt := 0

def adaAccount : Account where
  desk :=
    { connections := [adaConnection.toExchangeConnection]
      riskRules := [Orders.limitRule "ada" 100]
      trades := []
      riskEvents := []
      orders := []
      executionEvents := [] }
  connections := [adaConnection]
  riskRules := [{ Orders.limitRule "ada" 100 with createdAt := 0 }]
  sameConnections := rfl
  sameRiskRules := rfl
  uniqueIds := List.nodup_singleton _

def btcRules : SymbolRules where
  symbol := "BTCUSDT"
  lot := ⟨⟨1, 5⟩, ⟨9000, 0⟩, ⟨1, 5⟩⟩
  minNotional := 5

/-- Everything is answered, one coin is worth 50000 and the user has one. -/
def adaFates : (op : Op) → Fate op
  | .findTradeConnection _ => ⟨.answered, 0⟩
  | .findConnection _ _ => Delivery.answered
  | .findNewestRiskRule _ => ⟨.answered, 0⟩
  | .findBinanceConnections _ => Delivery.answered
  | .decryptSecret encrypted => .ok encrypted
  | .getBalances _ _ => .ok [⟨"USDT", 1000⟩, ⟨"BTC", 1⟩]
  | .fetchBookTicker _ => .ok (some ⟨some 50000, some 50010, some 50005⟩)
  | .technicalVote _ => ⟨.hold, "", none⟩
  | .order op => Orders.Outlook.fate { rules := some btcRules } op

theorem adaFates_answered : Answered (orderService.fates adaFates) :=
  ⟨fun _ _ => rfl, fun _ => rfl, fun _ _ => rfl⟩

def adaEnv : Env := ⟨true, none, 1000⟩

/-- What is read for any request of hers in this symbol, if she has so much free. -/
def adaReadings (freeBase : ℚ) : Readings where
  connectionId := some "binance"
  balances := ⟨1000, 0, freeBase, none⟩
  readiness := ⟨true, true, true, none, [], [⟨"binance", none, "BINANCE"⟩]⟩
  book := some ⟨some 50000, some 50010, some 50005⟩
  rules := some btcRules
  tech := ⟨.hold, "", none⟩

/-- She sells a thousandth of a coin. -/
def adaSell : ManualTradeRequest := ⟨"BTCUSDT", .sell, none, some (1 / 1000), none, false⟩

def adaBuy : ManualTradeRequest := ⟨"BTCUSDT", .buy, some 200, none, none, false⟩

end GdslExchange.CexManual
