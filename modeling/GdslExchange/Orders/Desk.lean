/-
This file models what the order services talk to: the tables they read and
write, the exchange, and the clock. Every database call and every exchange call
is one operation, with its fate: a database write may be answered, refused, or
applied and never answered, and the exchange may report anything.

Rows are kept in creation order and a row's id is its position.
-/

import GdslExchange.Async.Delivery
import GdslExchange.Async.Program
import GdslExchange.Orders.LotSize
import GdslExchange.Orders.Status
import Mathlib.Data.List.MinMax

namespace GdslExchange.Orders

open Async (Delivery Stored)
open Numeric

inductive OrderSide where
  | buy
  | sell
deriving DecidableEq

inductive OrderType where
  | market
  | limit
deriving DecidableEq

inductive TimeInForce where
  | gtc
  | ioc
  | fok
deriving DecidableEq

structure ExchangeConnection where
  id : String
  userId : String
  isActive : Bool
  canTrade : Bool
  encryptedApiKey : String
  encryptedSecret : String
deriving DecidableEq

structure RiskRule where
  userId : String
  maxOrderNotional : Option ℚ
  maxOpenNotional : Option ℚ
  maxDailyLoss : Option ℚ
  cooldownMinutes : Option ℕ
  maxLosingStreak : Option ℕ
  isEnabled : Bool
  updatedAt : ℕ
deriving DecidableEq

inductive TradeStatus where
  | open
  | closed
  | cancelled
deriving DecidableEq

/-- A trade row, and when it was closed: the table has no column for that. -/
structure Trade where
  userId : String
  status : TradeStatus
  pnl : Option ℚ
  allocationUsd : Option ℚ
  createdAt : ℕ
  closedAt : ℕ

structure Order where
  userId : String
  exchangeConnectionId : String
  clientOrderId : String
  exchangeOrderId : Option String
  symbol : String
  side : OrderSide
  type : OrderType
  quantity : ℚ
  price : Option ℚ
  timeInForce : Option TimeInForce
  stopPrice : Option ℚ
  takeProfitPrice : Option ℚ
  trailingPercent : Option ℚ
  status : OrderStatus
  rejectReason : Option String
  avgFillPrice : Option ℚ
  filledQuantity : ℚ
  quoteQuantity : ℚ
  submittedAt : Option ℕ
  closedAt : Option ℕ
deriving DecidableEq

/-- An order row with the connection it was placed through. -/
structure ConnectedOrder extends Stored Order where
  exchangeConnection : ExchangeConnection
deriving DecidableEq

/-- The `data` of an order update. An absent field is left as it is. -/
structure OrderPatch where
  status : Option OrderStatus := none
  exchangeOrderId : Option String := none
  submittedAt : Option ℕ := none
  filledQuantity : Option ℚ := none
  quoteQuantity : Option ℚ := none
  avgFillPrice : Option ℚ := none
  rejectReason : Option String := none
  closedAt : Option (Option ℕ) := none

def OrderPatch.apply (patch : OrderPatch) (order : Order) : Order :=
  { order with
    status := patch.status.getD order.status
    exchangeOrderId := patch.exchangeOrderId.or order.exchangeOrderId
    submittedAt := patch.submittedAt.or order.submittedAt
    filledQuantity := patch.filledQuantity.getD order.filledQuantity
    quoteQuantity := patch.quoteQuantity.getD order.quoteQuantity
    avgFillPrice := patch.avgFillPrice.or order.avgFillPrice
    rejectReason := patch.rejectReason.or order.rejectReason
    closedAt := patch.closedAt.getD order.closedAt }

/-- What the exchange says of an order. A number it leaves out, or sends as an empty text, is
absent. -/
structure RemoteOrder where
  status : RemoteStatus
  orderId : String
  price : Option ℚ
  executedQty : Option ℚ
  cummulativeQuoteQty : Option ℚ
deriving DecidableEq

/-- The size of an order: an amount of the base asset, or an amount of the quote asset to
spend. -/
inductive OrderSize where
  | base (quantity : ℚ)
  | quote (amount : ℚ)

/-- The parameters of an order as they are sent to the exchange, with the numbers that their
texts denote. -/
structure RemoteRequest where
  apiKey : String
  apiSecret : String
  symbol : String
  side : OrderSide
  type : OrderType
  size : OrderSize
  price : Option ℚ
  timeInForce : Option TimeInForce
  newClientOrderId : String

inductive ExecutionEventType where
  | orderSubmitted
  | orderUpdated
  | orderRejected
deriving DecidableEq

inductive EventPayload where
  | remote (order : RemoteOrder)
  | message (text : String)

structure ExecutionEvent where
  userId : String
  orderId : ℕ
  eventType : ExecutionEventType
  payload : EventPayload

inductive RiskEventKind where
  | orderRejected
  | dailyLossLimit
  | openExposureLimit
  | losingStreakCooldown
deriving DecidableEq

inductive RiskSeverity where
  | warn
  | critical
deriving DecidableEq

/-- A risk event with the numbers of its `metadata`. -/
structure RiskEvent where
  userId : String
  kind : RiskEventKind
  severity : RiskSeverity
  message : String
  symbol : Option String := none
  notional : Option ℚ := none
  dailyPnl : Option ℚ := none

/-- The tables. -/
structure Desk where
  connections : List ExchangeConnection
  riskRules : List RiskRule
  trades : List Trade
  riskEvents : List RiskEvent
  orders : List Order
  executionEvents : List ExecutionEvent

/-! ### Operations -/

/-- How an order submission ends. -/
inductive Submission where
  | accepted (order : RemoteOrder)
  | refused (message : String)
  | lost (message : String)

inductive Op where
  | now
  | clientOrderId
  | findConnection (id userId : String)
  | findLatestRiskRule (userId : String)
  | findRiskRule (userId : String)
  | findClosedTrades (userId : String) (since : ℕ)
  | countOpenTrades (userId : String)
  | findRecentClosedTrades (userId : String) (take : ℕ)
  | createRiskEvent (event : RiskEvent)
  | tryGetBinanceSymbolRules (symbol : String)
  | decryptSecret (encrypted : String)
  | createOrder (order : Order)
  | findOrder (id : ℕ) (userId : String)
  | findOpenOrders
  | updateOrder (id : ℕ) (patch : OrderPatch)
  | createExecutionEvent (event : ExecutionEvent)
  | placeRemoteOrder (request : RemoteRequest)
  | getRemoteOrder (symbol exchangeOrderId : String)

@[reducible] def Result : Op → Type
  | .now => ℕ
  | .clientOrderId => String
  | .findConnection _ _ => Option ExchangeConnection
  | .findLatestRiskRule _ => Option RiskRule
  | .findRiskRule _ => Option RiskRule
  | .findClosedTrades _ _ => List Trade
  | .countOpenTrades _ => ℕ
  | .findRecentClosedTrades _ _ => List Trade
  | .createRiskEvent _ => Unit
  | .tryGetBinanceSymbolRules _ => Option SymbolRules
  | .decryptSecret _ => String
  | .createOrder _ => Stored Order
  | .findOrder _ _ => Option ConnectedOrder
  | .findOpenOrders => List ConnectedOrder
  | .updateOrder _ _ => Stored Order
  | .createExecutionEvent _ => Unit
  | .placeRemoteOrder _ => RemoteOrder
  | .getRemoteOrder _ _ => RemoteOrder

/-- A query without a total order picks any of the rows that qualify. -/
structure Pick where
  delivery : Delivery
  position : ℕ

@[reducible] def Fate : Op → Type
  | .now => ℕ
  | .clientOrderId => String
  | .findLatestRiskRule _ => Pick
  | .findRiskRule _ => Pick
  | .tryGetBinanceSymbolRules _ => Option SymbolRules
  | .decryptSecret _ => Except String String
  | .placeRemoteOrder _ => Submission
  | .getRemoteOrder _ _ => Except String RemoteOrder
  | _ => Delivery

/-- One of several qualifying rows. -/
def choose {Row : Type} (position : ℕ) (rows : List Row) : Option Row :=
  rows[position % rows.length]?

def enabledRules (rules : List RiskRule) (userId : String) : List RiskRule :=
  rules.filter fun rule => rule.userId = userId ∧ rule.isEnabled

/-- The rules that `orderBy: { updatedAt: 'desc' }` may put first. -/
def latestRules (rules : List RiskRule) : List RiskRule :=
  rules.filter fun rule => rules.all fun other => other.updatedAt ≤ rule.updatedAt

/-- The closed trades of a user, and among them those created since an instant. -/
def closedTrades (trades : List Trade) (userId : String) : List Trade :=
  trades.filter fun trade => trade.userId = userId ∧ trade.status = .closed

def closedTradesSince (trades : List Trade) (userId : String) (since : ℕ) : List Trade :=
  (closedTrades trades userId).filter fun trade => since ≤ trade.createdAt

def openTrades (trades : List Trade) (userId : String) : List Trade :=
  trades.filter fun trade => trade.userId = userId ∧ trade.status = .open

def Desk.connected (desk : Desk) (id : ℕ) (order : Order) : Option ConnectedOrder :=
  (desk.connections.find? fun connection =>
    connection.id = order.exchangeConnectionId).map fun connection =>
      { id := id, row := order, exchangeConnection := connection }

def Desk.openOrders (desk : Desk) : List ConnectedOrder :=
  (desk.orders.mapIdx fun id order => desk.connected id order).filterMap fun connected =>
    connected.filter fun order => order.row.status ∉ terminalStatuses

def perform : (op : Op) → Fate op → Desk → Desk × Except String (Result op)
  | .now, time, desk => (desk, .ok time)
  | .clientOrderId, id, desk => (desk, .ok id)
  | .findConnection id userId, delivery, desk =>
    delivery.read desk (desk.connections.find? fun connection =>
      connection.id = id ∧ connection.userId = userId ∧ connection.isActive)
  | .findLatestRiskRule userId, pick, desk =>
    pick.delivery.read desk
      (choose pick.position (latestRules (enabledRules desk.riskRules userId)))
  | .findRiskRule userId, pick, desk =>
    pick.delivery.read desk (choose pick.position (enabledRules desk.riskRules userId))
  | .findClosedTrades userId since, delivery, desk =>
    delivery.read desk (closedTradesSince desk.trades userId since)
  | .countOpenTrades userId, delivery, desk =>
    delivery.read desk (openTrades desk.trades userId).length
  | .findRecentClosedTrades userId take, delivery, desk =>
    delivery.read desk (((closedTrades desk.trades userId).mergeSort
      fun first second => decide (second.createdAt ≤ first.createdAt)).take take)
  | .createRiskEvent event, delivery, desk =>
    delivery.write desk { desk with riskEvents := desk.riskEvents ++ [event] } ()
  | .tryGetBinanceSymbolRules _, rules, desk => (desk, .ok rules)
  | .decryptSecret _, secret, desk => (desk, secret)
  | .createOrder order, delivery, desk =>
    delivery.write desk { desk with orders := desk.orders ++ [order] }
      ⟨desk.orders.length, order⟩
  | .findOrder id userId, delivery, desk =>
    delivery.read desk ((desk.orders[id]?.filter fun order => order.userId = userId).bind
      (desk.connected id))
  | .findOpenOrders, delivery, desk => delivery.read desk (desk.openOrders.take 200)
  | .updateOrder id patch, delivery, desk =>
    match desk.orders[id]? with
    | none => (desk, .error "Record to update not found.")
    | some order =>
      delivery.write desk { desk with orders := desk.orders.set id (patch.apply order) }
        ⟨id, patch.apply order⟩
  | .createExecutionEvent event, delivery, desk =>
    delivery.write desk { desk with executionEvents := desk.executionEvents ++ [event] } ()
  | .placeRemoteOrder _, submission, desk =>
    match submission with
    | .accepted order => (desk, .ok order)
    | .refused message => (desk, .error message)
    | .lost message => (desk, .error message)
  | .getRemoteOrder _ _, report, desk => (desk, report)

/-- The outside world of the order services. -/
abbrev oms : Async.Service where
  State := Desk
  Op := Op
  Result := Result
  Failure := String
  Fate := Fate
  perform := perform

/-- A call of an order service. -/
abbrev Call (Value : Type) := Async.Program oms Value

def await (op : Op) : Call (Result op) := @Async.Program.perform oms op

/-! ### Picking a rule -/

/-- Some rule is updated last. -/
theorem latestRules_eq_nil_iff (rules : List RiskRule) : latestRules rules = [] ↔ rules = [] := by
  constructor
  · intro empty
    cases isArgmax : rules.argmax RiskRule.updatedAt with
    | none => exact List.argmax_eq_none.mp isArgmax
    | some latest =>
      have member : latest ∈ latestRules rules := by
        refine List.mem_filter.mpr ⟨List.argmax_mem isArgmax, ?_⟩
        rw [List.all_eq_true]
        exact fun other isRule => decide_eq_true (List.le_of_mem_argmax isRule isArgmax)
      rw [empty] at member
      cases member
  · intro empty
    rw [empty]
    rfl

variable {Row : Type} {rows : List Row}

theorem choose_eq_none_iff {position : ℕ} :
    choose position rows = none ↔ rows = [] := by
  unfold choose
  rw [List.getElem?_eq_none_iff]
  constructor
  · intro outside
    by_contra nonempty
    have positive : 0 < rows.length := List.length_pos_iff.mpr nonempty
    exact absurd (Nat.mod_lt position positive) (Nat.not_lt.mpr outside)
  · intro empty
    rw [empty]
    exact Nat.zero_le _

theorem mem_of_choose {position : ℕ} {row : Row} (chosen : choose position rows = some row) :
    row ∈ rows :=
  List.mem_of_getElem? chosen

theorem exists_choose {row : Row} (member : row ∈ rows) :
    ∃ position, choose position rows = some row := by
  obtain ⟨position, bound, isRow⟩ := List.getElem_of_mem member
  refine ⟨position, ?_⟩
  unfold choose
  rw [Nat.mod_eq_of_lt bound, List.getElem?_eq_getElem bound, isRow]

/-! ### Effects on the order rows -/

/-- An operation that writes no order row and reads none. -/
def Quiet : Op → Prop
  | .createOrder _ => False
  | .findOrder _ _ => False
  | .findOpenOrders => False
  | .updateOrder _ _ => False
  | _ => True

theorem orders_perform_of_quiet {op : Op} (quiet : Quiet op) (fate : Fate op) (desk : Desk) :
    (perform op fate desk).1.orders = desk.orders := by
  cases op with
  | createOrder order => exact quiet.elim
  | updateOrder id patch => exact quiet.elim
  | findOrder id userId => exact quiet.elim
  | findOpenOrders => exact quiet.elim
  | placeRemoteOrder request => cases fate <;> rfl
  | createRiskEvent event => cases fate <;> rfl
  | createExecutionEvent event => cases fate <;> rfl
  | _ => rfl

/-- No operation writes a risk rule. -/
theorem riskRules_perform (op : Op) (fate : Fate op) (desk : Desk) :
    (perform op fate desk).1.riskRules = desk.riskRules := by
  cases op with
  | updateOrder id patch =>
    simp only [perform]
    split
    · rfl
    · cases fate <;> rfl
  | placeRemoteOrder request => cases fate <;> rfl
  | createRiskEvent event => cases fate <;> rfl
  | createExecutionEvent event => cases fate <;> rfl
  | createOrder order => cases fate <;> rfl
  | _ => rfl

variable {id : ℕ} {patch : OrderPatch}

theorem orders_perform_update_idle {desk : Desk} {delivery : Delivery}
    (idle : ¬ delivery.Applies ∨ desk.orders[id]? = none) :
    (perform (.updateOrder id patch) delivery desk).1.orders = desk.orders := by
  rcases idle with refused | missing
  · simp only [perform, Delivery.write, refused, if_false]
    split <;> rfl
  · simp only [perform, missing]

variable {row : Order}

theorem orders_perform_update {desk : Desk} {delivery : Delivery} (applies : delivery.Applies)
    (found : desk.orders[id]? = some row) :
    (perform (.updateOrder id patch) delivery desk).1.orders =
      desk.orders.set id (patch.apply row) := by
  simp only [perform, found, Delivery.write, applies, if_true]

theorem row_perform_update {desk : Desk} (delivery : Delivery) (found : desk.orders[id]? = some row) :
    (perform (.updateOrder id patch) delivery desk).1.orders[id]? =
      some (if delivery.Applies then patch.apply row else row) := by
  by_cases applies : delivery.Applies
  · rw [orders_perform_update applies found, if_pos applies]
    exact List.getElem?_set_self (List.getElem?_eq_some_iff.mp found).1
  · rw [orders_perform_update_idle (Or.inl applies), if_neg applies]
    exact found

theorem reply_perform_update {desk : Desk} (delivery : Delivery)
    (found : desk.orders[id]? = some row) :
    (perform (.updateOrder id patch) delivery desk).2 =
      delivery.reply ⟨id, patch.apply row⟩ := by
  simp only [perform, found, Delivery.write]

variable {order : ConnectedOrder}

/-! ### The open orders -/

theorem connected_row {desk : Desk} (joined : desk.connected id row = some order) :
    order.id = id ∧ order.row = row := by
  obtain ⟨connection, _, isOrder⟩ := Option.map_eq_some_iff.mp joined
  rw [← isOrder]
  exact ⟨rfl, rfl⟩

theorem openOrders_row {desk : Desk} (member : order ∈ desk.openOrders) :
    desk.orders[order.id]? = some order.row ∧ desk.connected order.id order.row = some order := by
  obtain ⟨joined, memberJoined, kept⟩ := List.mem_filterMap.mp member
  obtain ⟨id, bound, isJoined⟩ := List.mem_mapIdx.mp memberJoined
  obtain ⟨isSome, _⟩ := Option.filter_eq_some_iff.mp kept
  rw [isSome] at isJoined
  obtain ⟨sameId, sameRow⟩ := connected_row isJoined
  rw [sameId, sameRow]
  exact ⟨List.getElem?_eq_getElem bound, isJoined⟩

theorem openOrders_pairwise (desk : Desk) :
    desk.openOrders.Pairwise fun first second => first.id ≠ second.id := by
  unfold Desk.openOrders
  rw [List.pairwise_filterMap, List.pairwise_iff_getElem]
  intro first second boundFirst boundSecond earlier joinedFirst isFirst joinedSecond isSecond
  rw [List.getElem_mapIdx, Option.filter_eq_some_iff] at isFirst isSecond
  rw [(connected_row isFirst.1).1, (connected_row isSecond.1).1]
  exact Nat.ne_of_lt earlier

/-! ### Uninterrupted runs -/

abbrev Fates := (op : Op) → Fate op

section Exec

variable {fates : Fates} {desk : Desk}

theorem exec_await (op : Op) : (await op).exec fates desk = perform op (fates op) desk :=
  @Async.Program.exec_perform oms fates op desk

theorem exec_decryptSecret {encrypted secret : String}
    (decrypts : fates (.decryptSecret encrypted) = .ok secret) :
    (await (.decryptSecret encrypted)).exec fates desk = (desk, .ok secret) := by
  rw [exec_await, decrypts]
  rfl

theorem exec_getRemoteOrder {symbol exchangeOrderId : String} {remote : RemoteOrder}
    (reported : fates (.getRemoteOrder symbol exchangeOrderId) = .ok remote) :
    (await (.getRemoteOrder symbol exchangeOrderId)).exec fates desk = (desk, .ok remote) := by
  rw [exec_await, reported]
  rfl

theorem exec_now {time : ℕ} (isTime : fates .now = time) :
    (await .now).exec fates desk = (desk, .ok time) := by
  rw [exec_await, isTime]
  rfl

theorem exec_updateOrder {id : ℕ} {row : Order} {patch : OrderPatch} (found : desk.orders[id]? = some row)
    (answered : fates (.updateOrder id patch) = Delivery.answered) :
    (await (.updateOrder id patch)).exec fates desk =
      ({ desk with orders := desk.orders.set id (patch.apply row) },
        .ok ⟨id, patch.apply row⟩) := by
  rw [exec_await, answered]
  simp only [perform, found]
  rfl

theorem exec_createExecutionEvent {event : ExecutionEvent}
    (answered : fates (.createExecutionEvent event) = Delivery.answered) :
    (await (.createExecutionEvent event)).exec fates desk =
      ({ desk with executionEvents := desk.executionEvents ++ [event] }, .ok ()) := by
  rw [exec_await, answered]
  rfl

theorem exec_findOpenOrders (answered : fates .findOpenOrders = Delivery.answered) :
    (await .findOpenOrders).exec fates desk = (desk, .ok (desk.openOrders.take 200)) := by
  rw [exec_await, answered]
  rfl

end Exec

/-! ### Environments -/

/-- An environment that treats every operation of a kind alike. -/
structure Outlook where
  time : ℕ := 0
  position : ℕ := 0
  rules : Option SymbolRules := none
  placed : Submission := .refused "unavailable"
  reported : Except String RemoteOrder := .error "unavailable"
  delivery : Op → Delivery := fun _ => .answered

/-- The fate each operation meets there. -/
def Outlook.fate (outlook : Outlook) : Fates
  | .now => outlook.time
  | .clientOrderId => "gdsl"
  | .findLatestRiskRule userId => ⟨outlook.delivery (.findLatestRiskRule userId), outlook.position⟩
  | .findRiskRule userId => ⟨outlook.delivery (.findRiskRule userId), outlook.position⟩
  | .tryGetBinanceSymbolRules _ => outlook.rules
  | .decryptSecret encrypted => .ok encrypted
  | .placeRemoteOrder _ => outlook.placed
  | .getRemoteOrder _ _ => outlook.reported
  | .findConnection id userId => outlook.delivery (.findConnection id userId)
  | .findClosedTrades userId since => outlook.delivery (.findClosedTrades userId since)
  | .countOpenTrades userId => outlook.delivery (.countOpenTrades userId)
  | .findRecentClosedTrades userId take => outlook.delivery (.findRecentClosedTrades userId take)
  | .createRiskEvent event => outlook.delivery (.createRiskEvent event)
  | .createOrder order => outlook.delivery (.createOrder order)
  | .findOrder id userId => outlook.delivery (.findOrder id userId)
  | .findOpenOrders => outlook.delivery .findOpenOrders
  | .updateOrder id patch => outlook.delivery (.updateOrder id patch)
  | .createExecutionEvent event => outlook.delivery (.createExecutionEvent event)

def Outlook.turn (outlook : Outlook) (caller : ℕ) : Async.Turn oms := ⟨caller, outlook.fate⟩

/-- A connection that may trade. -/
def aliceConnection : ExchangeConnection where
  id := "binance"
  userId := "alice"
  isActive := true
  canTrade := true
  encryptedApiKey := "key"
  encryptedSecret := "secret"

/-- A desk with that connection and nothing else. -/
def aliceDesk : Desk where
  connections := [aliceConnection]
  riskRules := []
  trades := []
  riskEvents := []
  orders := []
  executionEvents := []

end GdslExchange.Orders
