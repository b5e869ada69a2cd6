/-
This file models the order service: placing an order through the exchange
adapter, and the two synchronisers that later bring a stored order up to date
with the exchange.
-/

import GdslExchange.Orders.Risk

namespace GdslExchange.Orders

open Async (Stored)
open Async.Program
open Numeric

structure CreateOrderInput where
  userId : String
  exchangeConnectionId : String
  symbol : String
  side : OrderSide
  type : OrderType
  quantity : ℚ
  quoteOrderQty : Option ℚ := none
  price : Option ℚ := none
  timeInForce : Option TimeInForce := none
  stopLossPrice : Option ℚ := none
  takeProfitPrice : Option ℚ := none
  trailingPercent : Option ℚ := none

/-- A number that JavaScript takes for true: present and not zero. -/
def truthy (number : Option ℚ) : Option ℚ := number.filter fun value => value ≠ 0

/-- Reject an amount under the exchange's minimum notional. -/
def requireMinNotional (rules : SymbolRules) (notional : ℚ) (label symbol : String) :
    Call Unit :=
  throwIf (notional < rules.minNotional - 1 / 10 ^ 8)
    s!"{label} ${(toFixed 2 notional).render} is below the Binance minimum of ${text rules.minNotional} for {symbol}"

/-- `normalizeBaseQuantity`: the exchange-ready quantity, or nothing when the symbol's filters
could not be resolved. -/
def normalizeBaseQuantity (symbol : String) (quantity referencePrice : ℚ) :
    Call (Option Fixed) := do
  let rules ← await (.tryGetBinanceSymbolRules symbol)
  match rules with
  | none => return none
  | some rules =>
    match adjustQuantityToLotSize quantity rules with
    | .error message => failed message
    | .ok qtyStr => do
      if rules.minNotional > 0 ∧ referencePrice > 0 then
        requireMinNotional rules (notionalForQuantity qtyStr referencePrice) "Order notional"
          symbol
      return some qtyStr

/-- The base quantity `placeOrder` submits. For an order by quote amount it only checks the
minimum notional, and the quantity is not sent. -/
def submitQuantity (input : CreateOrderInput) : Call ℚ := do
  match truthy input.quoteOrderQty with
  | some amount => do
    let rules ← await (.tryGetBinanceSymbolRules input.symbol)
    match rules with
    | none => return input.quantity
    | some rules => do
      if rules.minNotional > 0 then requireMinNotional rules amount "Order size" input.symbol
      return input.quantity
  | none => do
    let quantityStr ← normalizeBaseQuantity input.symbol input.quantity (input.price.getD 0)
    return (quantityStr.map Fixed.value).getD input.quantity

/-- What `placeOrder` hands to `binanceAdapter.placeOrder`. -/
structure PlaceOrderInput where
  apiKey : String
  apiSecret : String
  symbol : String
  side : OrderSide
  type : OrderType
  quantity : Option ℚ
  quoteOrderQty : Option ℚ
  price : Option ℚ
  timeInForce : Option TimeInForce
  clientOrderId : String

/-- The parameters `binanceAdapter.placeOrder` sends, or the reason it sends none. -/
def remoteRequest (input : PlaceOrderInput) : Except String RemoteRequest :=
  let request (size : OrderSize) : RemoteRequest :=
    { apiKey := input.apiKey, apiSecret := input.apiSecret, symbol := input.symbol,
      side := input.side, type := input.type, size := size, price := none,
      timeInForce := none, newClientOrderId := input.clientOrderId }
  match input.type with
  | .limit =>
    match input.price, input.quantity with
    | none, _ => .error "Price is required for LIMIT orders"
    | some _, none => .error "Quantity is required for LIMIT orders"
    | some price, some quantity =>
      .ok { request (.base quantity) with
        price := some price, timeInForce := some (input.timeInForce.getD .gtc) }
  | .market =>
    match input.quoteOrderQty, input.quantity with
    | some amount, _ => .ok (request (.quote amount))
    | none, some quantity => .ok (request (.base quantity))
    | none, none => .error "MARKET order requires quantity or quoteOrderQty"

def adapterPlaceOrder (input : PlaceOrderInput) : Call RemoteOrder :=
  match remoteRequest input with
  | .error message => failed message
  | .ok request => await (.placeRemoteOrder request)

def averagePrice (remote : RemoteOrder) : Option ℚ :=
  match remote.executedQty, remote.cummulativeQuoteQty with
  | some executed, some quote => if executed > 0 then some (quote / executed) else none
  | _, _ => none

/-- The row update after a submission. -/
def submittedPatch (remote : RemoteOrder) (status : OrderStatus) (time : ℕ) : OrderPatch where
  status := some status
  exchangeOrderId := some remote.orderId
  submittedAt := some time
  filledQuantity := remote.executedQty
  quoteQuantity := remote.cummulativeQuoteQty
  avgFillPrice := averagePrice remote

/-- The row update of the `catch` block. -/
def rejectedPatch (message : String) (time : ℕ) : OrderPatch where
  status := some .rejected
  rejectReason := some message
  closedAt := some (some time)

/-- `Invalid order status transition: …`, unless the table allows the move. -/
def requireTransition (source : OrderStatus) (target : RemoteStatus) : Call OrderStatus :=
  match target with
  | .listed status =>
    if canTransitionOrderStatus source target then done status
    else failed s!"Invalid order status transition: {source.word} → {status.word}"
  | .unlisted word => failed s!"Invalid order status transition: {source.word} → {word}"

def CreateOrderInput.adapterInput (input : CreateOrderInput) (quantity : ℚ)
    (apiKey apiSecret clientOrderId : String) : PlaceOrderInput where
  apiKey := apiKey
  apiSecret := apiSecret
  symbol := input.symbol
  side := input.side
  type := input.type
  quantity := if (truthy input.quoteOrderQty).isSome then none else some quantity
  quoteOrderQty := (truthy input.quoteOrderQty).map fun amount => (toFixed 2 amount).value
  price := input.price
  timeInForce := input.timeInForce
  clientOrderId := clientOrderId

/-- The `try` block of `placeOrder`: submit, check the reported status, store the outcome and
log it. -/
def submitOrder (input : CreateOrderInput) (connection : ExchangeConnection) (quantity : ℚ)
    (clientOrderId : String) (id : ℕ) : Call (Stored Order) := do
  let apiKey ← await (.decryptSecret connection.encryptedApiKey)
  let apiSecret ← await (.decryptSecret connection.encryptedSecret)
  let remoteOrder ← adapterPlaceOrder
    (input.adapterInput quantity apiKey apiSecret clientOrderId)
  let incomingStatus ← requireTransition .pendingSubmit remoteOrder.status
  let time ← await .now
  let updated ← await
    (.updateOrder id (submittedPatch remoteOrder incomingStatus time))
  await (.createExecutionEvent
    { userId := input.userId, orderId := id, eventType := .orderSubmitted,
      payload := .remote remoteOrder })
  return updated

/-- The `catch` block of `placeOrder`. -/
def rejectOrder (input : CreateOrderInput) (id : ℕ) (message : String) :
    Call (Stored Order) := do
  let time ← await .now
  let _ ← await (.updateOrder id (rejectedPatch message time))
  await (.createExecutionEvent
    { userId := input.userId, orderId := id, eventType := .orderRejected,
      payload := .message message })
  failed message

/-- The row `placeOrder` creates before it submits. -/
def pendingOrder (input : CreateOrderInput) (quantity : ℚ) (clientOrderId : String) :
    Order where
  userId := input.userId
  exchangeConnectionId := input.exchangeConnectionId
  clientOrderId := clientOrderId
  exchangeOrderId := none
  symbol := input.symbol
  side := input.side
  type := input.type
  quantity := input.quoteOrderQty.getD quantity
  price := input.price
  timeInForce := input.timeInForce
  stopPrice := input.stopLossPrice
  takeProfitPrice := input.takeProfitPrice
  trailingPercent := input.trailingPercent
  status := .pendingSubmit
  rejectReason := none
  avgFillPrice := none
  filledQuantity := 0
  quoteQuantity := 0
  submittedAt := none
  closedAt := none

/-- Throw the reason of a refusal. -/
def requireAllowed : RiskVerdict → Call Unit
  | .allowed => done ()
  | .denied reason => failed reason

/-- What `placeOrder` asks the risk check. -/
def CreateOrderInput.riskCheck (input : CreateOrderInput) : RiskCheckInput where
  userId := input.userId
  symbol := input.symbol
  quantity := input.quantity
  price := if input.price.getD 0 = 0 then 1 else input.price.getD 0
  notionalUsd := input.quoteOrderQty

/-- Everything `placeOrder` does before it creates the row: the connection, the risk check and
the quantity. -/
def prepareOrder (input : CreateOrderInput) : Call (ExchangeConnection × ℚ) := do
  let found ← await
    (.findConnection input.exchangeConnectionId input.userId)
  let connection ← orThrow found "Exchange connection not found"
  throwIf (¬ connection.canTrade) "This exchange key has no trade permissions"
  let risk ← checkRisk input.riskCheck
  requireAllowed risk
  let quantity ← submitQuantity input
  return (connection, quantity)

def placeOrder (input : CreateOrderInput) : Call (Stored Order) := do
  let (connection, quantity) ← prepareOrder input
  let clientOrderId ← await .clientOrderId
  let order ← await (.createOrder (pendingOrder input quantity clientOrderId))
  (submitOrder input connection quantity clientOrderId order.id).recover
    (rejectOrder input order.id)

/-! ### The synchronisers -/

def syncClosedStatuses : List OrderStatus := [.filled, .canceled, .expired]

/-- The row update of `syncOrderStatus`. -/
def syncPatch (order : Order) (remote : RemoteOrder) (status : OrderStatus) (time : ℕ) :
    OrderPatch where
  status := some status
  avgFillPrice := remote.price
  filledQuantity := some (remote.executedQty.getD order.filledQuantity)
  quoteQuantity := some (remote.cummulativeQuoteQty.getD order.quoteQuantity)
  closedAt := some (if status ∈ syncClosedStatuses then some time else none)

def syncOrderStatus (userId : String) (orderId : ℕ) : Call (Stored Order) := do
  let found ← await (.findOrder orderId userId)
  let order ← orThrow found "Order not found"
  let exchangeOrderId ← orThrow order.row.exchangeOrderId "Order not found"
  let _ ← await (.decryptSecret order.exchangeConnection.encryptedApiKey)
  let _ ← await (.decryptSecret order.exchangeConnection.encryptedSecret)
  let remote ← await (.getRemoteOrder order.row.symbol exchangeOrderId)
  let status ← requireTransition order.row.status remote.status
  let time ← await .now
  let updated ← await
    (.updateOrder order.id (syncPatch order.row remote status time))
  await (.createExecutionEvent
    { userId := userId, orderId := order.id, eventType := .orderUpdated,
      payload := .remote remote })
  return updated

/-- The row update of `reconcileOpenOrders`. -/
def reconcilePatch (order : Order) (remote : RemoteOrder) (status : OrderStatus) (time : ℕ) :
    OrderPatch where
  status := some status
  filledQuantity := some (remote.executedQty.getD order.filledQuantity)
  quoteQuantity := some (remote.cummulativeQuoteQty.getD order.quoteQuantity)
  closedAt := some (if status ∈ terminalStatuses then some time else none)

/-- The body of the reconciler's loop for one open order that the exchange knows. -/
def reconcileOrder (order : ConnectedOrder) (exchangeOrderId : String) : Call Unit := do
  let _ ← await (.decryptSecret order.exchangeConnection.encryptedApiKey)
  let _ ← await (.decryptSecret order.exchangeConnection.encryptedSecret)
  let remote ← await (.getRemoteOrder order.row.symbol exchangeOrderId)
  match remote.status with
  | .unlisted _ => return ()
  | .listed nextStatus =>
    if canTransitionOrderStatus order.row.status nextStatus then do
      let time ← await .now
      let _ ← await
        (.updateOrder order.id (reconcilePatch order.row remote nextStatus time))
      return ()
    else return ()

/-- One iteration of the reconciler's loop: an order without an exchange id is skipped, and a
failure is logged and forgotten. -/
def reconcileNext (order : ConnectedOrder) : Call Unit :=
  match order.row.exchangeOrderId with
  | none => done ()
  | some exchangeOrderId =>
    (reconcileOrder order exchangeOrderId).recover fun _ => done ()

def reconcileOpenOrders : Call Unit := do
  let openOrders ← await .findOpenOrders
  forEach reconcileNext openOrders

/-! ### What the preparation awaits -/

/-- The operations `placeOrder` awaits before it creates the row. -/
def Preparing : Op → Prop
  | .now => True
  | .findConnection _ _ => True
  | .findLatestRiskRule _ => True
  | .findClosedTrades _ _ => True
  | .createRiskEvent _ => True
  | .tryGetBinanceSymbolRules _ => True
  | _ => False

/-- Those that it awaits after it has found its connection. -/
def Checking (op : Op) : Prop := Preparing op ∧ ∀ id userId, op ≠ .findConnection id userId

theorem preparing_of_checking (op : Op) (checking : Checking op) : Preparing op := checking.1

theorem only_deny (event : RiskEvent) : (deny event).Only Checking :=
  only_bind (only_perform ⟨trivial, nofun⟩) fun _ => trivial

theorem only_checkDailyLoss (input : RiskCheckInput) (limit : Option ℚ) :
    (checkDailyLoss input limit).Only Checking := by
  cases limit with
  | none => trivial
  | some maxDailyLoss =>
    refine only_bind (only_perform ⟨trivial, nofun⟩) fun time => ?_
    refine only_bind (only_perform ⟨trivial, nofun⟩) fun todayTrades => ?_
    simp only
    split
    · exact only_deny _
    · trivial

theorem only_checkRisk (input : RiskCheckInput) : (checkRisk input).Only Checking := by
  refine only_bind (only_perform ⟨trivial, nofun⟩) fun activeRule => ?_
  cases activeRule with
  | none => trivial
  | some rule =>
    simp only
    split
    · exact only_checkDailyLoss _ _
    · split
      · exact only_deny _
      · exact only_checkDailyLoss _ _

theorem only_requireMinNotional (rules : SymbolRules) (notional : ℚ)
    (label symbol : String) : (requireMinNotional rules notional label symbol).Only Checking :=
  only_throwIf

theorem only_normalizeBaseQuantity (symbol : String) (quantity referencePrice : ℚ) :
    (normalizeBaseQuantity symbol quantity referencePrice).Only Checking := by
  refine only_bind (only_perform ⟨trivial, nofun⟩) fun rules => ?_
  cases rules with
  | none => trivial
  | some rules =>
    simp only
    split
    · trivial
    · split
      · exact only_bind (only_requireMinNotional _ _ _ _) fun _ => trivial
      · trivial

theorem only_submitQuantity (input : CreateOrderInput) :
    (submitQuantity input).Only Checking := by
  unfold submitQuantity
  split
  · refine only_bind (only_perform ⟨trivial, nofun⟩) fun rules => ?_
    cases rules with
    | none => trivial
    | some rules =>
      simp only
      split
      · exact only_bind (only_requireMinNotional _ _ _ _) fun _ => trivial
      · trivial
  · exact only_bind (only_normalizeBaseQuantity _ _ _) fun _ => trivial

theorem only_prepareOrder (input : CreateOrderInput) :
    (prepareOrder input).Only Preparing := by
  refine only_then trivial fun found => ?_
  refine only_bind only_orThrow fun connection => ?_
  refine only_bind only_throwIf fun _ => ?_
  refine only_bind ((only_checkRisk _).mono preparing_of_checking) fun risk => ?_
  refine only_bind (by cases risk <;> trivial) fun _ => ?_
  exact only_bind ((only_submitQuantity input).mono preparing_of_checking) fun _ => trivial

def aliceBuy : CreateOrderInput where
  userId := "alice"
  exchangeConnectionId := "binance"
  symbol := "BTCUSDT"
  side := .buy
  type := .market
  quantity := 1

end GdslExchange.Orders
