/-
This file settles when the order-notional limit of the risk check bounds what
`placeOrder` submits.

The check sees the quantity and the price of the caller; what is sent is the
quantity after the lot adjustment, valued at the market price when the order is
a market order. Both are pure functions of the input and the symbol rules, and
the limit holds for every user exactly when the second is covered by the first.
-/

import GdslExchange.Orders.Service
import GdslExchange.Async.Contract

namespace GdslExchange.Orders

open Async Async.Contract Async.Program
open Numeric

/-! ### What is sent -/

/-- The notional falls under the exchange's minimum. -/
def BelowMinimum (rules : SymbolRules) (notional : ℚ) : Prop :=
  notional < rules.minNotional - 1 / 10 ^ 8

instance (rules : SymbolRules) (notional : ℚ) : Decidable (BelowMinimum rules notional) :=
  inferInstanceAs (Decidable (_ < _))

/-- The quantity `normalizeBaseQuantity` lets through. -/
def normalizedQuantity (input : CreateOrderInput) : Option SymbolRules → Option ℚ
  | none => some input.quantity
  | some rules =>
    match adjustQuantityToLotSize input.quantity rules with
    | .error _ => none
    | .ok qtyStr =>
      if (rules.minNotional > 0 ∧ input.price.getD 0 > 0) ∧
          BelowMinimum rules (notionalForQuantity qtyStr (input.price.getD 0)) then none
      else some qtyStr.value

/-- The quantity `submitQuantity` lets through. -/
def sizedQuantity (input : CreateOrderInput) (rules : Option SymbolRules) : Option ℚ :=
  match truthy input.quoteOrderQty, rules with
  | none, _ => normalizedQuantity input rules
  | some _, none => some input.quantity
  | some amount, some rules =>
    if rules.minNotional > 0 ∧ BelowMinimum rules amount then none else some input.quantity

def RemoteRequest.notional (request : RemoteRequest) (marketPrice : ℚ) : ℚ :=
  match request.size with
  | .base quantity => quantity * request.price.getD marketPrice
  | .quote amount => amount

def sentNotional (input : CreateOrderInput) (rules : Option SymbolRules) (marketPrice : ℚ) :
    Option ℚ :=
  (sizedQuantity input rules).bind fun quantity =>
    match input.type, truthy input.quoteOrderQty, input.price with
    | .limit, none, some price => some (quantity * price)
    | .limit, _, _ => none
    | .market, some amount, _ => some (toFixed 2 amount).value
    | .market, none, _ => some (quantity * marketPrice)

/-! ### The property and the condition -/

/-- The request an operation submits. -/
def submitted : Op → Option RemoteRequest
  | .placeRemoteOrder request => some request
  | _ => none

/-- In every schedule in which the symbol has these rules, whatever is submitted is within every
limit the user has enabled. -/
def LimitEnforced (desk : Desk) (input : CreateOrderInput) (rules : Option SymbolRules)
    (marketPrice : ℚ) : Prop :=
  ∀ turns : List (Turn oms),
    (∀ turn ∈ turns, ∀ symbol, turn.fate (.tryGetBinanceSymbolRules symbol) = rules) →
    ∀ step ∈ (System.solo desk (placeOrder input)).steps turns,
    ∀ request, submitted step.op = some request →
    ∀ rule ∈ enabledRules desk.riskRules input.userId,
    ∀ limit, rule.maxOrderNotional = some limit → request.notional marketPrice ≤ limit

/-- What is sent is worth no more than what the risk check is shown. -/
def Covered (input : CreateOrderInput) (rules : Option SymbolRules) (marketPrice : ℚ) : Prop :=
  ∀ notional, sentNotional input rules marketPrice = some notional →
    notional ≤ input.riskCheck.notional

/-- A rule the check may pick limits an order at least as much as every other enabled rule. -/
def LatestLeast (rules : List RiskRule) (userId : String) : Prop :=
  ∀ latest ∈ latestRules (enabledRules rules userId), ∀ rule ∈ enabledRules rules userId,
    ∀ limit, rule.maxOrderNotional = some limit →
      ∃ least, latest.maxOrderNotional = some least ∧ least ≤ limit

/-- The risk check lets the order pass. -/
def Passes (input : CreateOrderInput) (rules : List RiskRule) : Prop :=
  enabledRules rules input.userId = [] ∨
    ∃ latest ∈ latestRules (enabledRules rules input.userId),
      ∀ limit, latest.maxOrderNotional = some limit → input.riskCheck.notional ≤ limit

/-! ### Pure facts -/

theorem sentNotional_eq {input : CreateOrderInput} {rules : Option SymbolRules}
    {quantity : ℚ} (marketPrice : ℚ) (apiKey apiSecret clientOrderId : String)
    (sized : sizedQuantity input rules = some quantity) :
    sentNotional input rules marketPrice =
      match remoteRequest (input.adapterInput quantity apiKey apiSecret clientOrderId) with
      | .ok request => some (request.notional marketPrice)
      | .error _ => none := by
  unfold sentNotional remoteRequest CreateOrderInput.adapterInput
  rw [sized, Option.bind_some]
  cases kind : input.type <;> cases amount : truthy input.quoteOrderQty <;>
    cases price : input.price <;> rfl

/-! ### Every submission has passed the check -/

def SymbolRulesAre (rules : Option SymbolRules) : Step oms → Prop
  | ⟨_, _, .tryGetBinanceSymbolRules _, fate⟩ => fate = rules
  | _ => True

/-- The contract of a call that submits nothing but what the check has seen. -/
abbrev limiting (input : CreateOrderInput) (rules : Option SymbolRules)
    (riskRules : List RiskRule) (marketPrice : ℚ) : Contract oms :=
  alone (SymbolRulesAre rules)
    (fun step => ∀ request, submitted step.op = some request → Passes input riskRules ∧
      sentNotional input rules marketPrice = some (request.notional marketPrice))
    fun moment => moment.state.riskRules = riskRules

section Limiting

variable {input : CreateOrderInput} {rules : Option SymbolRules} {riskRules : List RiskRule}
  {marketPrice : ℚ}

/-- An operation that submits nothing tells the caller what it answers. -/
theorem limiting_perform {op : Op} {post : Result op → Prop} (unsubmitted : submitted op = none)
    (answers : ∀ desk fate reply, desk.riskRules = riskRules →
      SymbolRulesAre rules ⟨⟨desk, []⟩, 0, op, fate⟩ →
      (perform op fate desk).2 = .ok reply → post reply) :
    (limiting input rules riskRules marketPrice).Triple 0 (fun _ => True) (await op)
      (outcome (fun reply _ => post reply) fun _ _ => True) := by
  refine Triple.alone fun before fate _ sameRules allowed => ⟨?_, ?_, ?_⟩
  · intro request isSubmitted
    rw [unsubmitted] at isSubmitted
    cases isSubmitted
  · exact (riskRules_perform op fate before.state).trans sameRules
  · refine outcome_intro (fun reply replied => ?_) fun _ _ => trivial
    refine answers before.state fate reply sameRules ?_ replied
    cases op <;> trivial

theorem limiting_program {Value : Type} {program : Call Value}
    (unsubmitted : program.Only fun op => submitted op = none) :
    (limiting input rules riskRules marketPrice).Triple 0 (fun _ => True) program anyOutcome :=
  Triple.only (fun _ none => limiting_perform none fun _ _ _ _ _ _ => trivial) unsubmitted

theorem unsubmitted_of_preparing (op : Op) (preparing : Preparing op) : submitted op = none := by
  cases op <;> first | rfl | exact preparing.elim

theorem checkRisk_limiting :
    (limiting input rules riskRules marketPrice).Triple 0 (fun _ => True)
      (checkRisk input.riskCheck)
      (outcome (fun verdict _ => verdict = .allowed → Passes input riskRules)
        fun _ _ => True) := by
  have picked : (limiting input rules riskRules marketPrice).Triple 0 (fun _ => True)
      (await (.findLatestRiskRule input.riskCheck.userId))
      (outcome (fun picked _ => ∃ position,
        choose position (latestRules (enabledRules riskRules input.userId)) = picked)
        fun _ _ => True) := by
    refine limiting_perform rfl fun desk pick picked sameRules _ replied => ⟨pick.position, ?_⟩
    rw [← sameRules]
    obtain ⟨delivery, position⟩ := pick
    cases delivery <;> cases replied
    rfl
  refine Triple.bind picked fun activeRule => Triple.fact fun isPicked => ?_
  obtain ⟨position, isPicked⟩ := isPicked
  cases activeRule with
  | none =>
    refine Triple.done fun _ _ _ => Or.inl ?_
    exact (latestRules_eq_nil_iff _).mp (choose_eq_none_iff.mp isPicked)
  | some rule =>
    have member := mem_of_choose isPicked
    have goesOn : ∀ limit, (∀ max, rule.maxOrderNotional = some max →
        input.riskCheck.notional ≤ max) →
        (limiting input rules riskRules marketPrice).Triple 0 (fun _ => True)
          (checkDailyLoss input.riskCheck limit)
          (outcome (fun verdict _ => verdict = .allowed → Passes input riskRules)
            fun _ _ => True) := by
      intro limit within
      have only := ((only_checkDailyLoss input.riskCheck limit).mono preparing_of_checking).mono
        unsubmitted_of_preparing
      refine (limiting_program only).weaken (fun _ holds => holds) fun result moment _ => ?_
      exact outcome_intro (fun _ _ _ => Or.inr ⟨rule, member, within⟩) fun _ _ => trivial
    simp only
    split
    next unlimited =>
      refine goesOn _ fun max isMax => ?_
      rw [unlimited] at isMax
      cases isMax
    next max isMax =>
      split
      · refine Triple.bind (limiting_program (only_perform rfl)) fun _ => ?_
        exact Triple.done fun _ _ impossible => by cases impossible
      next notOver =>
        refine goesOn _ fun other isOther => ?_
        rw [isMax] at isOther
        cases isOther
        exact not_lt.mp notOver

theorem rules_limiting {symbol : String} :
    (limiting input rules riskRules marketPrice).Triple 0 (fun _ => True)
      (await (.tryGetBinanceSymbolRules symbol))
      (outcome (fun reply _ => reply = rules) fun _ _ => True) := by
  refine limiting_perform rfl fun desk fate reply _ isRules replied => ?_
  cases replied
  exact isRules

theorem requireMinNotional_limiting {symbolRules : SymbolRules} {notional : ℚ}
    {label symbol : String} :
    (limiting input rules riskRules marketPrice).Triple 0 (fun _ => True)
      (requireMinNotional symbolRules notional label symbol)
      (outcome (fun _ _ => ¬ BelowMinimum symbolRules notional) fun _ _ => True) :=
  Triple.throwIf (fun _ _ _ => trivial) fun passed _ _ => passed

theorem normalizeBaseQuantity_limiting :
    (limiting input rules riskRules marketPrice).Triple 0 (fun _ => True)
      (normalizeBaseQuantity input.symbol input.quantity (input.price.getD 0))
      (outcome (fun quantityStr _ => normalizedQuantity input rules =
        some ((quantityStr.map Fixed.value).getD input.quantity)) fun _ _ => True) := by
  refine Triple.bind rules_limiting fun reply => Triple.fact fun isRules => ?_
  subst isRules
  unfold normalizedQuantity
  cases reply with
  | none => exact Triple.done fun _ _ => rfl
  | some symbolRules =>
    cases adjusted : adjustQuantityToLotSize input.quantity symbolRules with
    | error message =>
      simp only [adjusted]
      exact Triple.failed fun _ _ => trivial
    | ok qtyStr =>
      simp only [adjusted]
      split
      next checked =>
        refine Triple.bind requireMinNotional_limiting fun _ => ?_
        exact Triple.done fun _ above => if_neg fun below => above below.2
      next unchecked =>
        exact Triple.done fun _ _ => if_neg fun below => unchecked below.1

theorem submitQuantity_limiting :
    (limiting input rules riskRules marketPrice).Triple 0 (fun _ => True)
      (submitQuantity input)
      (outcome (fun quantity _ => sizedQuantity input rules = some quantity)
        fun _ _ => True) := by
  unfold submitQuantity sizedQuantity
  cases truthy input.quoteOrderQty with
  | some amount =>
    refine Triple.bind rules_limiting fun reply => Triple.fact fun isRules => ?_
    subst isRules
    cases reply with
    | none => exact Triple.done fun _ _ => rfl
    | some symbolRules =>
      simp only
      split
      next positive =>
        refine Triple.bind requireMinNotional_limiting fun _ => ?_
        exact Triple.done fun _ above => if_neg fun below => above below.2
      next notPositive =>
        exact Triple.done fun _ _ => if_neg fun below => notPositive below.1
  | none =>
    refine Triple.bind normalizeBaseQuantity_limiting fun quantityStr => ?_
    exact Triple.done fun _ normalized => normalized

theorem prepareOrder_limiting :
    (limiting input rules riskRules marketPrice).Triple 0 (fun _ => True) (prepareOrder input)
      (outcome (fun prepared _ => Passes input riskRules ∧
        sizedQuantity input rules = some prepared.2) fun _ _ => True) := by
  refine Triple.bind (limiting_program (only_perform rfl)) fun found => ?_
  refine Triple.bind (limiting_program only_orThrow) fun connection => ?_
  refine Triple.bind (limiting_program only_throwIf) fun _ => ?_
  refine Triple.bind checkRisk_limiting fun verdict => Triple.fact fun allows => ?_
  cases verdict with
  | denied reason => exact fun _ _ => trivial
  | allowed =>
    refine Triple.bind (Triple.done fun _ _ => trivial) fun _ => Triple.fact fun _ => ?_
    refine Triple.bind submitQuantity_limiting fun quantity => ?_
    exact Triple.done fun _ sized => ⟨allows rfl, sized⟩

theorem adapterPlaceOrder_limiting {quantity : ℚ} {apiKey apiSecret clientOrderId : String}
    (passes : Passes input riskRules) (sized : sizedQuantity input rules = some quantity) :
    (limiting input rules riskRules marketPrice).Triple 0 (fun _ => True)
      (adapterPlaceOrder (input.adapterInput quantity apiKey apiSecret clientOrderId))
      anyOutcome := by
  have sent := sentNotional_eq marketPrice apiKey apiSecret clientOrderId sized
  unfold adapterPlaceOrder
  cases isRequest : remoteRequest (input.adapterInput quantity apiKey apiSecret clientOrderId) with
  | error message => exact Triple.failed fun _ _ => trivial
  | ok request =>
    rw [isRequest] at sent
    refine Triple.alone fun before fate _ sameRules _ => ⟨?_, ?_, ?_⟩
    · intro other isOther
      cases isOther
      exact ⟨passes, sent⟩
    · exact (riskRules_perform (.placeRemoteOrder request) fate before.state).trans sameRules
    · exact outcome_intro (fun _ _ => trivial) fun _ _ => trivial

theorem submitOrder_limiting {connection : ExchangeConnection} {quantity : ℚ}
    {clientOrderId : String} {id : ℕ} (passes : Passes input riskRules)
    (sized : sizedQuantity input rules = some quantity) :
    (limiting input rules riskRules marketPrice).Triple 0 (fun _ => True)
      (submitOrder input connection quantity clientOrderId id) anyOutcome := by
  refine Triple.bind (limiting_program (only_perform rfl)) fun apiKey => ?_
  refine Triple.bind (limiting_program (only_perform rfl)) fun apiSecret => ?_
  refine Triple.bind (adapterPlaceOrder_limiting passes sized) fun remote => ?_
  refine limiting_program (only_bind ?_ fun status => ?_)
  · unfold requireTransition
    split
    · split <;> trivial
    · trivial
  · refine only_then rfl fun time => ?_
    refine only_then rfl fun updated => ?_
    exact only_then rfl fun _ => trivial

theorem placeOrder_limiting :
    (limiting input rules riskRules marketPrice).Triple 0 (fun _ => True) (placeOrder input)
      anyOutcome := by
  refine Triple.bind prepareOrder_limiting fun prepared => Triple.fact fun facts => ?_
  refine Triple.bind (limiting_program (only_perform rfl)) fun clientOrderId => ?_
  refine Triple.bind (limiting_program (only_perform rfl)) fun order => ?_
  refine Triple.recover (submitOrder_limiting facts.1 facts.2) fun message => ?_
  refine limiting_program (only_then rfl fun time => ?_)
  refine only_then rfl fun updated => ?_
  exact only_then rfl fun _ => trivial

/-- Whatever a run submits has passed the check and is the sent notional. -/
theorem submitted_passes {desk : Desk} {turns : List (Turn oms)}
    (isRules : ∀ turn ∈ turns, ∀ symbol, turn.fate (.tryGetBinanceSymbolRules symbol) = rules)
    {step : Step oms} (member : step ∈ (System.solo desk (placeOrder input)).steps turns)
    {request : RemoteRequest} (isSubmitted : submitted step.op = some request) :
    Passes input desk.riskRules ∧
      sentNotional input rules marketPrice = some (request.notional marketPrice) := by
  have allowed : ∀ step ∈ (System.solo desk (placeOrder input)).steps turns,
      SymbolRulesAre rules step := by
    rintro ⟨before, caller, op, fate⟩ memberStep
    obtain ⟨turn, memberTurn, isFate⟩ := System.steps_fate memberStep
    cases op <;> first | trivial | exact isFate.trans (isRules turn memberTurn _)
  have triple := (@placeOrder_limiting input rules desk.riskRules marketPrice).weaken
    (fun moment (_ : moment = ⟨desk, []⟩) => trivial) fun _ _ post => post
  have start : (fun moment : Moment oms => moment.state.riskRules = desk.riskRules) ⟨desk, []⟩ :=
    rfl
  exact (sound_alone start triple turns allowed).2 step member request isSubmitted

end Limiting

/-! ### Everything that passes can be submitted -/

def tradingConnection (input : CreateOrderInput) : ExchangeConnection where
  id := input.exchangeConnectionId
  userId := input.userId
  isActive := true
  canTrade := true
  encryptedApiKey := "key"
  encryptedSecret := "secret"

/-- A trade that was closed with a profit on the first day. -/
def profitableTrade (userId : String) : Trade where
  userId := userId
  status := .closed
  pnl := some 1
  allocationUsd := none
  createdAt := 0
  closedAt := 0

/-- A desk on which the user may trade, has these rules and has lost nothing. -/
def tradingDesk (input : CreateOrderInput) (riskRules : List RiskRule) : Desk where
  connections := [tradingConnection input]
  riskRules := riskRules
  trades := [profitableTrade input.userId]
  riskEvents := []
  orders := []
  executionEvents := []

section Submitting

variable {input : CreateOrderInput} {rules : Option SymbolRules} {riskRules : List RiskRule}

/-- The environment that answers everything and picks the rule at this position. -/
abbrev answering (rules : Option SymbolRules) (position : ℕ) : Fates :=
  Outlook.fate { rules := rules, position := position }

variable {position : ℕ}

theorem exec_checkDailyLoss (limit : Option ℚ) :
    (checkDailyLoss input.riskCheck limit).exec (answering rules position)
      (tradingDesk input riskRules) = (tradingDesk input riskRules, .ok .allowed) := by
  cases limit with
  | none => rfl
  | some maxDailyLoss =>
    have trades : closedTradesSince (tradingDesk input riskRules).trades input.userId
        (startOfUtcDay 0) = [profitableTrade input.userId] := by
      simp [closedTradesSince, closedTrades, tradingDesk, profitableTrade, startOfUtcDay]
    have found : (await (.findClosedTrades input.userId (startOfUtcDay 0))).exec
        (answering rules position) (tradingDesk input riskRules) =
          (tradingDesk input riskRules, .ok [profitableTrade input.userId]) := by
      rw [exec_await, ← trades]
      rfl
    have pnl : totalPnl [profitableTrade input.userId] = 1 := by
      simp [totalPnl, profitableTrade]
    have above : ¬ totalPnl [profitableTrade input.userId] ≤ -|maxDailyLoss| := by
      rw [pnl]
      have nonneg := abs_nonneg maxDailyLoss
      linarith
    refine (exec_bind_ok (exec_now rfl)).trans ((exec_bind_ok found).trans ?_)
    simp only [if_neg above]
    rfl

theorem exec_checkRisk {latest : RiskRule}
    (picked : choose position (latestRules (enabledRules riskRules input.userId)) = some latest)
    (within : ∀ limit, latest.maxOrderNotional = some limit → input.riskCheck.notional ≤ limit) :
    (checkRisk input.riskCheck).exec (answering rules position) (tradingDesk input riskRules) =
      (tradingDesk input riskRules, .ok .allowed) := by
  have found : (await (.findLatestRiskRule input.userId)).exec (answering rules position)
      (tradingDesk input riskRules) = (tradingDesk input riskRules, .ok (some latest)) := by
    rw [exec_await, ← picked]
    rfl
  refine (exec_bind_ok found).trans ?_
  simp only
  split
  · exact exec_checkDailyLoss _
  next limit isLimit =>
    rw [if_neg (not_lt.mpr (within limit isLimit))]
    exact exec_checkDailyLoss _

variable {fates : Fates} {desk : Desk}

theorem exec_rules {symbol : String} (isRules : fates (.tryGetBinanceSymbolRules symbol) = rules) :
    (await (.tryGetBinanceSymbolRules symbol)).exec fates desk = (desk, .ok rules) := by
  rw [exec_await, isRules]
  rfl

theorem exec_requireMinNotional {symbolRules : SymbolRules} {notional : ℚ} {label symbol : String}
    (above : ¬ BelowMinimum symbolRules notional) :
    (requireMinNotional symbolRules notional label symbol).exec fates desk = (desk, .ok ()) := by
  unfold requireMinNotional throwIf
  unfold BelowMinimum at above
  rw [if_neg above]
  rfl

variable {quantity : ℚ}

theorem exec_normalizeBaseQuantity
    (isRules : fates (.tryGetBinanceSymbolRules input.symbol) = rules)
    (normalized : normalizedQuantity input rules = some quantity) :
    ∃ quantityStr, (normalizeBaseQuantity input.symbol input.quantity (input.price.getD 0)).exec
        fates desk = (desk, .ok quantityStr) ∧
      (quantityStr.map Fixed.value).getD input.quantity = quantity := by
  unfold normalizeBaseQuantity
  rw [exec_bind_ok (exec_rules isRules)]
  unfold normalizedQuantity at normalized
  cases rules with
  | none =>
    cases normalized
    exact ⟨none, rfl, rfl⟩
  | some symbolRules =>
    cases adjusted : adjustQuantityToLotSize input.quantity symbolRules with
    | error message =>
      simp only [adjusted] at normalized
      cases normalized
    | ok qtyStr =>
      simp only [adjusted] at normalized ⊢
      split at normalized
      · cases normalized
      next passes =>
        cases normalized
        refine ⟨some qtyStr, ?_, rfl⟩
        by_cases checked : symbolRules.minNotional > 0 ∧ input.price.getD 0 > 0
        · simp only [if_pos checked]
          rw [exec_bind_ok (exec_requireMinNotional fun below => passes ⟨checked, below⟩)]
          rfl
        · simp only [if_neg checked]
          rfl

theorem exec_submitQuantity (isRules : fates (.tryGetBinanceSymbolRules input.symbol) = rules)
    (sized : sizedQuantity input rules = some quantity) :
    (submitQuantity input).exec fates desk = (desk, .ok quantity) := by
  unfold submitQuantity
  unfold sizedQuantity at sized
  cases amount : truthy input.quoteOrderQty with
  | none =>
    rw [amount] at sized
    obtain ⟨quantityStr, ran, isQuantity⟩ := exec_normalizeBaseQuantity isRules sized
    simp only
    rw [exec_bind_ok ran, isQuantity]
    rfl
  | some quote =>
    rw [amount] at sized
    simp only
    rw [exec_bind_ok (exec_rules isRules)]
    cases rules with
    | none =>
      cases sized
      rfl
    | some symbolRules =>
      simp only at sized ⊢
      split at sized
      · cases sized
      next passes =>
        cases sized
        by_cases checked : symbolRules.minNotional > 0
        · rw [if_pos checked,
            exec_bind_ok (exec_requireMinNotional fun below => passes ⟨checked, below⟩)]
          rfl
        · rw [if_neg checked]
          rfl

theorem exec_prepareOrder {latest : RiskRule}
    (picked : choose position (latestRules (enabledRules riskRules input.userId)) = some latest)
    (within : ∀ limit, latest.maxOrderNotional = some limit → input.riskCheck.notional ≤ limit)
    (sized : sizedQuantity input rules = some quantity) :
    (prepareOrder input).exec (answering rules position) (tradingDesk input riskRules) =
      (tradingDesk input riskRules, .ok (tradingConnection input, quantity)) := by
  have found : (await (.findConnection input.exchangeConnectionId input.userId)).exec
      (answering rules position) (tradingDesk input riskRules) =
        (tradingDesk input riskRules, .ok (some (tradingConnection input))) := by
    rw [exec_await]
    simp [perform, Delivery.read, Delivery.reply, Outlook.fate, tradingDesk, tradingConnection]
  refine (exec_bind_ok found).trans ?_
  refine (exec_bind_ok (exec_checkRisk picked within)).trans ?_
  refine (exec_bind_ok (exec_submitQuantity rfl sized)).trans ?_
  rfl

/-- An order that passes under some rule the check may pick, and that is sent at all, is
submitted in some schedule. -/
theorem exists_submitted {latest : RiskRule} {notional marketPrice : ℚ}
    (isLatest : latest ∈ latestRules (enabledRules riskRules input.userId))
    (within : ∀ limit, latest.maxOrderNotional = some limit → input.riskCheck.notional ≤ limit)
    (sent : sentNotional input rules marketPrice = some notional) :
    ∃ turns : List (Turn oms),
      (∀ turn ∈ turns, ∀ symbol, turn.fate (.tryGetBinanceSymbolRules symbol) = rules) ∧
      ∃ step ∈ (System.solo (tradingDesk input riskRules) (placeOrder input)).steps turns,
      ∃ request, submitted step.op = some request ∧ request.notional marketPrice = notional := by
  obtain ⟨position, picked⟩ := exists_choose isLatest
  obtain ⟨quantity, sized, _⟩ := Option.bind_eq_some_iff.mp sent
  rw [sentNotional_eq marketPrice "key" "secret" "gdsl" sized] at sent
  cases isRequest : remoteRequest (input.adapterInput quantity "key" "secret" "gdsl") with
  | error message =>
    rw [isRequest] at sent
    cases sent
  | ok request =>
    rw [isRequest] at sent
    have traced : Op.placeRemoteOrder request ∈ (placeOrder input).trace
        (answering rules position) (tradingDesk input riskRules) := by
      refine mem_trace_bind_ok (exec_prepareOrder picked within sized) ?_
      refine List.mem_cons_of_mem _ (List.mem_cons_of_mem _ ?_)
      refine mem_trace_recover (mem_trace_bind_ok (exec_decryptSecret rfl) ?_)
      refine mem_trace_bind_ok (exec_decryptSecret rfl) (mem_trace_bind ?_)
      have adapter : adapterPlaceOrder (input.adapterInput quantity "key" "secret" "gdsl") =
          await (.placeRemoteOrder request) := by
        unfold adapterPlaceOrder
        rw [isRequest]
      show _ ∈ (adapterPlaceOrder (input.adapterInput quantity "key" "secret" "gdsl")).trace _ _
      rw [adapter]
      exact List.mem_cons_self
    obtain ⟨count, step, member, isOp⟩ := @System.mem_steps_of_mem_trace oms _
      (answering rules position) (placeOrder input) ⟨tradingDesk input riskRules, []⟩ _ traced
    refine ⟨List.replicate count ⟨0, answering rules position⟩, ?_, step, member, request, ?_,
      Option.some.inj sent⟩
    · intro turn memberTurn symbol
      rw [List.eq_of_mem_replicate memberTurn]
      rfl
    · rw [isOp]
      rfl

end Submitting

/-! ### The limit -/

theorem limitEnforced_of_covered {desk : Desk} {input : CreateOrderInput}
    {rules : Option SymbolRules} {marketPrice : ℚ}
    (latestLeast : LatestLeast desk.riskRules input.userId)
    (covered : Covered input rules marketPrice) : LimitEnforced desk input rules marketPrice := by
  intro turns isRules step member request isSubmitted rule isRule limit isLimit
  obtain ⟨passes, sent⟩ := submitted_passes isRules member isSubmitted
  rcases passes with none | ⟨latest, isLatest, within⟩
  · rw [none] at isRule
    cases isRule
  · obtain ⟨least, isLeast, below⟩ := latestLeast latest isLatest rule isRule limit isLimit
    exact (covered _ sent).trans ((within least isLeast).trans below)

def limitRule (userId : String) (limit : ℚ) : RiskRule where
  userId := userId
  maxOrderNotional := some limit
  maxOpenNotional := none
  maxDailyLoss := none
  cooldownMinutes := none
  maxLosingStreak := none
  isEnabled := true
  updatedAt := 0

theorem enabledRules_limitRule (userId : String) (limit : ℚ) :
    enabledRules [limitRule userId limit] userId = [limitRule userId limit] := by
  simp [enabledRules, limitRule]

theorem latestRules_singleton (rule : RiskRule) : latestRules [rule] = [rule] := by
  simp [latestRules]

/-- If the limit holds for every user whose latest limit is the least, the order is covered: a
user may allow just what the check is shown. -/
theorem covered_of_limitEnforced {input : CreateOrderInput} {rules : Option SymbolRules}
    {marketPrice : ℚ}
    (enforced : ∀ desk : Desk, LatestLeast desk.riskRules input.userId →
      LimitEnforced desk input rules marketPrice) : Covered input rules marketPrice := by
  intro notional sent
  set rule := limitRule input.userId input.riskCheck.notional with isRule
  have enabled : enabledRules [rule] input.userId = [rule] := enabledRules_limitRule _ _
  have latest : latestRules (enabledRules [rule] input.userId) = [rule] := by
    rw [enabled, latestRules_singleton]
  have least : LatestLeast [rule] input.userId := by
    intro first isFirst second isSecond limit isLimit
    rw [latest, List.mem_singleton] at isFirst
    rw [enabled, List.mem_singleton] at isSecond
    rw [isSecond] at isLimit
    exact ⟨limit, by rw [isFirst]; exact isLimit, le_refl limit⟩
  have member : rule ∈ latestRules (enabledRules [rule] input.userId) := by
    rw [latest]
    exact List.mem_singleton_self rule
  obtain ⟨turns, isRules, step, memberStep, request, isSubmitted, isNotional⟩ :=
    exists_submitted member (fun limit isLimit => le_of_eq (Option.some.inj isLimit)) sent
  rw [← isNotional]
  exact enforced (tradingDesk input [rule]) least turns isRules step memberStep request
    isSubmitted rule (by rw [show (tradingDesk input [rule]).riskRules = [rule] from rfl, enabled]
                         exact List.mem_singleton_self rule) _ rfl

def unitPriceOrder (userId : String) (quantity : ℚ) : CreateOrderInput where
  userId := userId
  exchangeConnectionId := "binance"
  symbol := "BTCUSDT"
  side := .buy
  type := .limit
  quantity := quantity
  price := some 1

theorem sentNotional_unitPriceOrder (userId : String) (quantity marketPrice : ℚ) :
    sentNotional (unitPriceOrder userId quantity) none marketPrice = some quantity := by
  simp [sentNotional, sizedQuantity, normalizedQuantity, truthy, unitPriceOrder]

theorem notional_unitPriceOrder (userId : String) (quantity : ℚ) :
    (unitPriceOrder userId quantity).riskCheck.notional = quantity := by
  simp [RiskCheckInput.notional, CreateOrderInput.riskCheck, unitPriceOrder]

/-- If the limit holds for every covered order of a user, his latest limit is the least: an order
just over another limit would pass. -/
theorem latestLeast_of_limitEnforced {riskRules : List RiskRule} {userId : String}
    (enforced : ∀ (desk : Desk) (input : CreateOrderInput) (rules : Option SymbolRules)
      (marketPrice : ℚ), desk.riskRules = riskRules → input.userId = userId →
      Covered input rules marketPrice → LimitEnforced desk input rules marketPrice) :
    LatestLeast riskRules userId := by
  intro latest isLatest rule isRule limit isLimit
  by_contra notLeast
  -- An order worth this passes the latest rule and exceeds the other one.
  obtain ⟨quantity, within, isOver⟩ : ∃ quantity : ℚ,
      (∀ max, latest.maxOrderNotional = some max → quantity ≤ max) ∧ limit < quantity := by
    cases isMax : latest.maxOrderNotional with
    | none =>
      refine ⟨limit + 1, ?_, lt_add_one limit⟩
      intro max impossible
      cases impossible
    | some max =>
      refine ⟨max, fun _ same => le_of_eq (Option.some.inj same), ?_⟩
      exact not_le.mp fun below => notLeast ⟨max, isMax, below⟩
  set input := unitPriceOrder userId quantity with isInput
  have sent := sentNotional_unitPriceOrder userId quantity 0
  have shown := notional_unitPriceOrder userId quantity
  have covered : Covered input none 0 := by
    intro notional isSent
    rw [sent] at isSent
    cases isSent
    exact le_of_eq shown.symm
  obtain ⟨turns, isRules, step, member, request, isSubmitted, isNotional⟩ :=
    @exists_submitted input none riskRules latest quantity 0 isLatest
      (fun max isMax => by rw [shown]; exact within max isMax) sent
  have bounded := enforced (tradingDesk input riskRules) input none 0 rfl rfl covered turns
    isRules step member request isSubmitted rule isRule limit isLimit
  rw [isNotional] at bounded
  exact absurd bounded (not_le.mpr isOver)

/-- The notional limit is enforced on an order for every user whose latest limit is the least
exactly when the order is covered, and on every covered order of a user exactly when his latest
limit is the least. -/
theorem limitEnforced_iff (input : CreateOrderInput) (rules : Option SymbolRules)
    (marketPrice : ℚ) (riskRules : List RiskRule) (userId : String) :
    ((∀ desk : Desk, LatestLeast desk.riskRules input.userId →
      LimitEnforced desk input rules marketPrice) ↔ Covered input rules marketPrice) ∧
    ((∀ (desk : Desk) (order : CreateOrderInput) (rules : Option SymbolRules) (marketPrice : ℚ),
      desk.riskRules = riskRules → order.userId = userId → Covered order rules marketPrice →
      LimitEnforced desk order rules marketPrice) ↔ LatestLeast riskRules userId) := by
  refine ⟨⟨covered_of_limitEnforced, ?_⟩, ⟨latestLeast_of_limitEnforced, ?_⟩⟩
  · exact fun covered desk latestLeast => limitEnforced_of_covered latestLeast covered
  · intro latestLeast desk input rules marketPrice sameRules sameUser covered
    refine limitEnforced_of_covered ?_ covered
    rw [sameRules, sameUser]
    exact latestLeast

/-! ### A market order without a price -/

/-- A user who limits orders to 100 buys one coin at the market, at 50000. -/
theorem not_limitEnforced :
    ¬ ∀ (desk : Desk) (input : CreateOrderInput) (rules : Option SymbolRules) (marketPrice : ℚ),
      LimitEnforced desk input rules marketPrice := by
  intro claimed
  have covered : Covered aliceBuy none 50000 :=
    covered_of_limitEnforced fun desk _ => claimed desk aliceBuy none 50000
  have shown := covered 50000 (by decide +kernel)
  revert shown
  decide +kernel

end GdslExchange.Orders
