/-
This file compares the two synchronisers on one open order and one report of the
exchange, with every call answered, and settles when both bring the row up to
date.
-/

import GdslExchange.Orders.Service

namespace GdslExchange.Orders

open Async Async.Program

variable {fates : Fates} {desk : Desk}

/-! ### The property and the condition -/

/-- The environment answers every call about this order, and reports this of it. -/
structure Serves (fates : Fates) (order : ConnectedOrder) (exchangeOrderId : String)
    (remote : RemoteOrder) : Prop where
  found : fates (.findOrder order.id order.row.userId) = Delivery.answered
  listed : fates .findOpenOrders = Delivery.answered
  apiKey : ∃ key, fates (.decryptSecret order.exchangeConnection.encryptedApiKey) = .ok key
  apiSecret : ∃ secret, fates (.decryptSecret order.exchangeConnection.encryptedSecret) = .ok secret
  reported : fates (.getRemoteOrder order.row.symbol exchangeOrderId) = .ok remote
  updated : ∀ patch, fates (.updateOrder order.id patch) = Delivery.answered
  logged : ∀ event, fates (.createExecutionEvent event) = Delivery.answered

/-- What the exchange reports of an order, with both of its amounts present. -/
structure Report where
  status : RemoteStatus
  orderId : String
  price : Option ℚ
  executedQty : ℚ
  cummulativeQuoteQty : ℚ

def Report.remote (report : Report) : RemoteOrder where
  status := report.status
  orderId := report.orderId
  price := report.price
  executedQty := some report.executedQty
  cummulativeQuoteQty := some report.cummulativeQuoteQty

def Report.averagePrice (report : Report) : ℚ := report.cummulativeQuoteQty / report.executedQty

/-- The row says what the exchange reported. -/
structure UpToDate (row : Order) (report : Report) : Prop where
  status : report.status = row.status
  filledQuantity : row.filledQuantity = report.executedQty
  quoteQuantity : row.quoteQuantity = report.cummulativeQuoteQty
  avgFillPrice : 0 < report.executedQty → row.avgFillPrice = some report.averagePrice
  closedAt : row.closedAt.isSome ↔ row.status ∈ terminalStatuses

/-- The call succeeds and leaves the row up to date. -/
def Synchronises {Value : Type} (fates : Fates) (desk : Desk) (call : Call Value) (id : ℕ)
    (report : Report) : Prop :=
  ∃ (reached : Desk) (value : Value) (row : Order),
    call.exec fates desk = (reached, .ok value) ∧ reached.orders[id]? = some row ∧
      UpToDate row report

/-- A report that can follow the stored row on the exchange: its status is not behind the stored
one, and neither are its amounts. -/
structure LegalReport (row : Order) (report : Report) : Prop where
  status : ∃ status, report.status = .listed status ∧ status ≠ .pendingSubmit ∧
    Reaches row.status status
  executedQty : row.filledQuantity ≤ report.executedQty
  cummulativeQuoteQty : row.quoteQuantity ≤ report.cummulativeQuoteQty

/-- The table moves the stored status to the reported one, which is not `REJECTED`, and once
something is executed its average price is stored already and is the reported price, if any. -/
structure Agreeable (row : Order) (report : Report) : Prop where
  moves : canTransitionOrderStatus row.status report.status = true
  notRejected : report.status ≠ OrderStatus.rejected
  stored : 0 < report.executedQty → row.avgFillPrice = some report.averagePrice
  priced : 0 < report.executedQty → ∀ price, report.price = some price →
    price = report.averagePrice

variable {report : Report} {status : OrderStatus}

/-! ### The patches -/

theorem upToDate_sync_iff {row : Order} {time : ℕ} (isStatus : report.status = status) :
    UpToDate ((syncPatch row report.remote status time).apply row) report ↔
      (0 < report.executedQty → report.price.or row.avgFillPrice = some report.averagePrice) ∧
        (status ∈ syncClosedStatuses ↔ status ∈ terminalStatuses) := by
  have closed : (if status ∈ syncClosedStatuses then some time else none).isSome ↔
      status ∈ syncClosedStatuses := by
    split <;> simp_all
  constructor
  · intro upToDate
    exact ⟨upToDate.avgFillPrice, closed.symm.trans upToDate.closedAt⟩
  · rintro ⟨priced, agree⟩
    exact ⟨isStatus, rfl, rfl, priced, closed.trans agree⟩

theorem upToDate_reconcile_iff {row : Order} {time : ℕ} (isStatus : report.status = status) :
    UpToDate ((reconcilePatch row report.remote status time).apply row) report ↔
      (0 < report.executedQty → row.avgFillPrice = some report.averagePrice) := by
  have closed : (if status ∈ terminalStatuses then some time else none).isSome ↔
      status ∈ terminalStatuses := by
    split <;> simp_all
  constructor
  · intro upToDate
    exact upToDate.avgFillPrice
  · intro stored
    exact ⟨isStatus, rfl, rfl, stored, closed⟩

theorem mem_syncClosedStatuses_iff :
    (status ∈ syncClosedStatuses ↔ status ∈ terminalStatuses) ↔ status ≠ .rejected := by
  revert status
  decide

/-! ### The first synchroniser -/

section Sync

variable {id : ℕ} {row : Order} {order : ConnectedOrder} {exchangeOrderId : String}
  {remote : RemoteOrder}

theorem exec_findOrder (found : desk.orders[id]? = some row)
    (joined : desk.connected id row = some order)
    (answered : fates (.findOrder id row.userId) = Delivery.answered) :
    (await (.findOrder id row.userId)).exec fates desk = (desk, .ok (some order)) := by
  rw [exec_await, answered]
  show (desk, Except.ok _) = _
  rw [found, Option.filter_some, if_pos (decide_eq_true rfl)]
  exact congrArg (fun joined => (desk, Except.ok joined)) joined

/-- What `syncOrderStatus` does after it has read the row and the report. -/
def syncWith (row : Order) (id : ℕ) (remote : RemoteOrder) : Call (Stored Order) := do
  let status ← requireTransition row.status remote.status
  let time ← await .now
  let updated ← await (.updateOrder id (syncPatch row remote status time))
  await (.createExecutionEvent ⟨row.userId, id, .orderUpdated, .remote remote⟩)
  return updated

theorem exec_sync (found : desk.orders[id]? = some row)
    (joined : desk.connected id row = some order)
    (sent : row.exchangeOrderId = some exchangeOrderId)
    (serves : Serves fates order exchangeOrderId remote) :
    (syncOrderStatus row.userId id).exec fates desk = (syncWith row id remote).exec fates desk := by
  obtain ⟨⟨orderId, orderRow⟩, connection⟩ := order
  obtain ⟨sameId, sameRow⟩ := connected_row joined
  simp only at sameId sameRow
  subst sameId sameRow
  obtain ⟨key, decryptsKey⟩ := serves.apiKey
  obtain ⟨secret, decryptsSecret⟩ := serves.apiSecret
  simp only [syncOrderStatus, exec_bind, exec_findOrder found joined serves.found, orThrow,
    exec_done, sent, exec_decryptSecret decryptsKey, exec_decryptSecret decryptsSecret,
    exec_getRemoteOrder serves.reported, syncWith]

/-- The status check, run on its own. -/
theorem exec_requireTransition {source : OrderStatus} {target : RemoteStatus} :
    (∃ status : OrderStatus, target = status ∧ canTransitionOrderStatus source target = true ∧
      (requireTransition source target).exec fates desk = (desk, .ok status)) ∨
    (canTransitionOrderStatus source target = false ∧
      ∃ message, (requireTransition source target).exec fates desk = (desk, .error message)) := by
  unfold requireTransition
  split
  next status =>
    by_cases checked : canTransitionOrderStatus source status = true
    · rw [if_pos checked]
      exact Or.inl ⟨status, rfl, checked, rfl⟩
    · rw [if_neg checked]
      exact Or.inr ⟨Bool.not_eq_true _ ▸ checked, _, rfl⟩
  · exact Or.inr ⟨rfl, _, rfl⟩

theorem exec_syncWith_error (blocked : canTransitionOrderStatus row.status remote.status = false) :
    ∃ message, (syncWith row id remote).exec fates desk = (desk, .error message) := by
  rcases @exec_requireTransition fates desk row.status remote.status with
    ⟨status, _, allowed, _⟩ | ⟨_, message, thrown⟩
  · rw [blocked] at allowed
    cases allowed
  · exact ⟨message, exec_bind_error thrown⟩

/-- Otherwise it stores its patch and logs it. -/
theorem exec_syncWith_ok {status : OrderStatus} (found : desk.orders[id]? = some row)
    (isStatus : remote.status = status)
    (allowed : canTransitionOrderStatus row.status remote.status = true)
    (updated : ∀ patch, fates (.updateOrder id patch) = Delivery.answered)
    (logged : ∀ event, fates (.createExecutionEvent event) = Delivery.answered) :
    ∃ reached value, (syncWith row id remote).exec fates desk = (reached, .ok value) ∧
      reached.orders =
        desk.orders.set id ((syncPatch row remote status (fates .now)).apply row) := by
  rcases @exec_requireTransition fates desk row.status remote.status with
    ⟨listed, isListed, _, passed⟩ | ⟨blocked, _⟩
  · rw [isStatus] at isListed
    cases isListed
    have ran : (syncWith row id remote).exec fates desk =
        ({ desk with
            orders := desk.orders.set id ((syncPatch row remote status (fates .now)).apply row)
            executionEvents := desk.executionEvents ++
              [⟨row.userId, id, .orderUpdated, .remote remote⟩] },
          .ok ⟨id, (syncPatch row remote status (fates .now)).apply row⟩) := by
      simp only [syncWith, exec_bind, passed, exec_now rfl, exec_updateOrder found (updated _),
        exec_createExecutionEvent (logged _), exec_pure]
    exact ⟨_, _, ran, rfl⟩
  · rw [allowed] at blocked
    cases blocked

/-- `syncOrderStatus` brings the row up to date exactly when the table has the move, the status
is not `REJECTED`, and the price it stores is the average price. -/
theorem synchronises_sync_iff {report : Report} (found : desk.orders[id]? = some row)
    (joined : desk.connected id row = some order)
    (sent : row.exchangeOrderId = some exchangeOrderId)
    (serves : Serves fates order exchangeOrderId report.remote) :
    Synchronises fates desk (syncOrderStatus row.userId id) id report ↔
      canTransitionOrderStatus row.status report.status = true ∧
        report.status ≠ OrderStatus.rejected ∧
        (0 < report.executedQty → report.price.or row.avgFillPrice = some report.averagePrice) := by
  unfold Synchronises
  rw [exec_sync found joined sent serves]
  have updated : ∀ patch, fates (.updateOrder id patch) = Delivery.answered := by
    rw [← (connected_row joined).1]
    exact serves.updated
  cases allowed : canTransitionOrderStatus row.status report.status with
  | false =>
    obtain ⟨message, thrown⟩ := @exec_syncWith_error fates desk id row report.remote allowed
    rw [thrown]
    constructor
    · rintro ⟨reached, value, synced, impossible, _⟩
      cases impossible
    · rintro ⟨impossible, _⟩
      cases impossible
  | true =>
    obtain ⟨status, isStatus⟩ := exists_listed_of_canTransition allowed
    obtain ⟨reached, value, ran, orders⟩ := @exec_syncWith_ok fates desk id row report.remote
      status found isStatus allowed updated serves.logged
    rw [ran]
    have stored : reached.orders[id]? =
        some ((syncPatch row report.remote status (fates .now)).apply row) := by
      rw [orders]
      exact List.getElem?_set_self (List.getElem?_eq_some_iff.mp found).1
    have closed : (status ∈ syncClosedStatuses ↔ status ∈ terminalStatuses) ↔
        report.status ≠ OrderStatus.rejected := by
      rw [mem_syncClosedStatuses_iff, isStatus]
      exact not_congr ⟨fun same => congrArg _ same, fun same => by cases same; rfl⟩
    constructor
    · rintro ⟨_, _, synced, same, isRow, upToDate⟩
      cases same
      rw [stored] at isRow
      cases isRow
      rw [upToDate_sync_iff isStatus, closed] at upToDate
      exact ⟨rfl, upToDate.2, upToDate.1⟩
    · rintro ⟨_, notRejected, priced⟩
      refine ⟨reached, value, _, rfl, stored, ?_⟩
      rw [upToDate_sync_iff isStatus, closed]
      exact ⟨priced, notRejected⟩

end Sync

/-! ### The second synchroniser -/

/-- One iteration always returns. -/
theorem exec_reconcileNext (order : ConnectedOrder) (desk : Desk) :
    ∃ reached, (reconcileNext order).exec fates desk = (reached, .ok ()) := by
  unfold reconcileNext
  split
  · exact ⟨desk, rfl⟩
  · rw [exec_recover]
    split
    · exact ⟨_, rfl⟩
    · exact ⟨_, rfl⟩

/-- An operation that writes no row, or only this one. -/
def WritesOnly (id : ℕ) (op : Op) : Prop := Quiet op ∨ ∃ patch, op = .updateOrder id patch

theorem row_perform_other {id other : ℕ} (different : id ≠ other) {op : Op}
    (writesOnly : WritesOnly id op) (fate : Fate op) :
    (perform op fate desk).1.orders[other]? = desk.orders[other]? := by
  rcases writesOnly with quiet | ⟨patch, isUpdate⟩
  · rw [orders_perform_of_quiet quiet]
  · subst isUpdate
    by_cases applied : fate.Applies ∧ ∃ row, desk.orders[id]? = some row
    · obtain ⟨applies, row, found⟩ := applied
      rw [orders_perform_update applies found, List.getElem?_set_ne different]
    · refine congrArg (fun orders : List Order => orders[other]?) (orders_perform_update_idle ?_)
      rcases not_and_or.mp applied with refused | missing
      · exact Or.inl refused
      · exact Or.inr (Option.eq_none_iff_forall_ne_some.mpr (not_exists.mp missing))

theorem only_reconcileNext (order : ConnectedOrder) :
    (reconcileNext order).Only (WritesOnly order.id) := by
  unfold reconcileNext
  split
  · trivial
  · refine only_recover ?_ fun _ => trivial
    refine only_then (Or.inl trivial) fun _ => ?_
    refine only_then (Or.inl trivial) fun _ => ?_
    refine only_then (Or.inl trivial) fun remote => ?_
    split
    · trivial
    · split
      · refine only_then (Or.inl trivial) fun time => ?_
        exact only_then (Or.inr ⟨_, rfl⟩) fun _ => trivial
      · trivial

theorem exec_reconcileNext_other {id : ℕ} {order : ConnectedOrder} (different : order.id ≠ id) :
    ((reconcileNext order).exec fates desk).1.orders[id]? = desk.orders[id]? :=
  @exec_keeps oms Unit fates (WritesOnly order.id)
    (fun reached : Desk => reached.orders[id]? = desk.orders[id]?)
    (fun _ _ writesOnly same => (row_perform_other different writesOnly _).trans same)
    _ (only_reconcileNext order) desk rfl

theorem exec_forEach_other {id : ℕ} {orders : List ConnectedOrder}
    (different : ∀ order ∈ orders, order.id ≠ id) :
    ((forEach reconcileNext orders : Call Unit).exec fates desk).1.orders[id]? =
      desk.orders[id]? := by
  induction orders generalizing desk with
  | nil => rfl
  | cons order rest inductionHypothesis =>
    obtain ⟨reached, ran⟩ := @exec_reconcileNext fates order desk
    show (((reconcileNext order).bind fun _ => forEach reconcileNext rest).exec fates
      desk).1.orders[id]? = _
    rw [← bind_eq, exec_bind_ok ran,
      inductionHypothesis fun other member => different other (List.mem_cons_of_mem _ member)]
    have kept := @exec_reconcileNext_other fates desk id order
      (different order List.mem_cons_self)
    rw [ran] at kept
    exact kept

/-- The iteration of the order itself: it stores its patch if the table allows the status. -/
theorem exec_reconcileNext_own {id : ℕ} {row : Order} {order : ConnectedOrder}
    {exchangeOrderId : String} {remote : RemoteOrder} (found : desk.orders[id]? = some row)
    (isId : order.id = id) (isRow : order.row = row)
    (sent : row.exchangeOrderId = some exchangeOrderId)
    (serves : Serves fates order exchangeOrderId remote) :
    ((reconcileNext order).exec fates desk).1.orders[id]? = some
      (match remote.status with
        | .listed status =>
          if canTransitionOrderStatus row.status status then
            (reconcilePatch row remote status (fates .now)).apply row
          else row
        | .unlisted _ => row) := by
  obtain ⟨⟨orderId, orderRow⟩, connection⟩ := order
  simp only at isId isRow
  subst isId isRow
  obtain ⟨key, decryptsKey⟩ := serves.apiKey
  obtain ⟨secret, decryptsSecret⟩ := serves.apiSecret
  simp only [reconcileNext, sent, exec_recover, reconcileOrder, exec_bind,
    exec_decryptSecret decryptsKey, exec_decryptSecret decryptsSecret,
    exec_getRemoteOrder serves.reported]
  cases isStatus : remote.status with
  | unlisted word => exact found
  | listed status =>
    by_cases allowed : canTransitionOrderStatus orderRow.status status = true
    · simp only [if_pos allowed, exec_bind, exec_now rfl,
        exec_updateOrder found (serves.updated _), exec_pure]
      exact List.getElem?_set_self (List.getElem?_eq_some_iff.mp found).1
    · simp only [if_neg allowed, exec_pure]
      exact found

theorem exec_reconcile_row {id : ℕ} {row : Order} {order : ConnectedOrder}
    {exchangeOrderId : String} {remote : RemoteOrder} {before after : List ConnectedOrder}
    (found : desk.orders[id]? = some row) (joined : desk.connected id row = some order)
    (sent : row.exchangeOrderId = some exchangeOrderId)
    (serves : Serves fates order exchangeOrderId remote)
    (differentBefore : ∀ other ∈ before, other.id ≠ id)
    (differentAfter : ∀ other ∈ after, other.id ≠ id) :
    ((forEach reconcileNext (before ++ order :: after) : Call Unit).exec fates
      desk).1.orders[id]? = some
        (match remote.status with
          | .listed status =>
            if canTransitionOrderStatus row.status status then
              (reconcilePatch row remote status (fates .now)).apply row
            else row
          | .unlisted _ => row) := by
  obtain ⟨isId, isRow⟩ := connected_row joined
  have returns := @exec_reconcileNext fates
  rw [exec_forEach_append returns]
  set middle := ((forEach reconcileNext before : Call Unit).exec fates desk).1 with isMiddle
  have foundMiddle : middle.orders[id]? = some row :=
    (exec_forEach_other differentBefore).trans found
  obtain ⟨next, ran⟩ := returns order middle
  have own := exec_reconcileNext_own foundMiddle isId isRow sent serves
  rw [ran] at own
  rw [← own]
  show ((reconcileNext order >>= fun _ => forEach reconcileNext after).exec fates
    middle).1.orders[id]? = _
  rw [exec_bind_ok ran]
  exact exec_forEach_other differentAfter

/-- `reconcileOpenOrders` brings a listed row up to date exactly when the table has the move and
the average price is stored already. -/
theorem synchronises_reconcile_iff {id : ℕ} {row : Order} {order : ConnectedOrder}
    {exchangeOrderId : String} (found : desk.orders[id]? = some row)
    (joined : desk.connected id row = some order) (listed : order ∈ desk.openOrders.take 200)
    (sent : row.exchangeOrderId = some exchangeOrderId)
    (serves : Serves fates order exchangeOrderId report.remote)
    (allowed : canTransitionOrderStatus row.status report.status = true) :
    Synchronises fates desk reconcileOpenOrders id report ↔
      (0 < report.executedQty → row.avgFillPrice = some report.averagePrice) := by
  obtain ⟨isId, isRow⟩ := connected_row joined
  obtain ⟨before, after, isList⟩ := List.append_of_mem listed
  have distinct : (desk.openOrders.take 200).Pairwise fun first second => first.id ≠ second.id :=
    (openOrders_pairwise desk).sublist (List.take_sublist _ _)
  rw [isList, List.pairwise_append, List.pairwise_cons] at distinct
  obtain ⟨_, ⟨others, _⟩, earlier⟩ := distinct
  have differentBefore : ∀ other ∈ before, other.id ≠ id := by
    intro other member
    rw [← isId]
    exact earlier other member order List.mem_cons_self
  have differentAfter : ∀ other ∈ after, other.id ≠ id := by
    intro other member
    rw [← isId]
    exact (others other member).symm
  have ran : reconcileOpenOrders.exec fates desk =
      (forEach reconcileNext (before ++ order :: after) : Call Unit).exec fates desk := by
    rw [← isList]
    exact exec_bind_ok (exec_findOpenOrders serves.listed)
  obtain ⟨reached, returned⟩ := @exec_forEach_returns oms fates ConnectedOrder reconcileNext
    (@exec_reconcileNext fates) (before ++ order :: after) desk
  have stored := exec_reconcile_row found joined sent serves differentBefore differentAfter
  rw [returned] at stored
  unfold Synchronises
  rw [ran, returned]
  obtain ⟨status, isStatus⟩ := exists_listed_of_canTransition allowed
  have isReported : report.remote.status = .listed status := isStatus
  rw [isStatus] at allowed
  simp only [isReported, if_pos allowed] at stored
  constructor
  · rintro ⟨_, _, reconciled, same, isReconciled, upToDate⟩
    cases same
    rw [stored] at isReconciled
    cases isReconciled
    exact (upToDate_reconcile_iff isStatus).mp upToDate
  · intro priced
    exact ⟨reached, (), _, rfl, stored, (upToDate_reconcile_iff isStatus).mpr priced⟩

/-! ### Both synchronisers -/

theorem not_synchronises_unlisted {id : ℕ} {row : Order} {order : ConnectedOrder}
    (found : desk.orders[id]? = some row) (joined : desk.connected id row = some order)
    (unlisted : order ∉ desk.openOrders.take 200)
    (answered : fates .findOpenOrders = Delivery.answered)
    (allowed : canTransitionOrderStatus row.status report.status = true) :
    ¬ Synchronises fates desk reconcileOpenOrders id report := by
  rintro ⟨reached, value, reconciled, ran, isReconciled, upToDate⟩
  have different : ∀ other ∈ desk.openOrders.take 200, other.id ≠ id := by
    intro other member sameId
    obtain ⟨stored, joinedOther⟩ := openOrders_row (List.mem_of_mem_take member)
    rw [sameId, found] at stored
    rw [sameId, ← Option.some.inj stored, joined] at joinedOther
    rw [Option.some.inj joinedOther] at unlisted
    exact unlisted member
  have kept := @exec_forEach_other fates desk id _ different
  have looped : reconcileOpenOrders.exec fates desk = _ := exec_bind_ok (exec_findOpenOrders answered)
  rw [looped] at ran
  rw [ran, isReconciled, found] at kept
  cases kept
  rw [upToDate.status, not_canTransition_self] at allowed
  cases allowed

/-- When every call is answered, the two synchronisers agree on an open order and bring it up to
date exactly when the report is agreeable and the reconciler lists the order. -/
theorem synchronisers_agree_iff (fates : Fates) (desk : Desk) (id : ℕ) (row : Order)
    (order : ConnectedOrder) (exchangeOrderId : String) (report : Report)
    (found : desk.orders[id]? = some row) (joined : desk.connected id row = some order)
    (sent : row.exchangeOrderId = some exchangeOrderId)
    (serves : Serves fates order exchangeOrderId report.remote) :
    (Synchronises fates desk (syncOrderStatus row.userId id) id report ∧
        Synchronises fates desk reconcileOpenOrders id report) ↔
      Agreeable row report ∧ order ∈ desk.openOrders.take 200 := by
  rw [synchronises_sync_iff found joined sent serves]
  constructor
  · rintro ⟨⟨moves, notRejected, priced⟩, reconciles⟩
    by_cases listed : order ∈ desk.openOrders.take 200
    · rw [synchronises_reconcile_iff found joined listed sent serves moves] at reconciles
      refine ⟨⟨moves, notRejected, reconciles, fun executed price isPrice => ?_⟩, listed⟩
      have written := priced executed
      rw [isPrice] at written
      exact Option.some.inj written
    · exact absurd reconciles
        (not_synchronises_unlisted found joined listed serves.listed moves)
  · rintro ⟨agreeable, listed⟩
    refine ⟨⟨agreeable.moves, agreeable.notRejected, fun executed => ?_⟩, ?_⟩
    · cases isPrice : report.price with
      | none => exact agreeable.stored executed
      | some price => exact congrArg some (agreeable.priced executed price isPrice)
    · rw [synchronises_reconcile_iff found joined listed sent serves agreeable.moves]
      exact agreeable.stored

/-! ### Two reports -/

/-- A limit order that the exchange has taken. -/
def restingOrder : Order where
  userId := "alice"
  exchangeConnectionId := "binance"
  clientOrderId := "gdsl"
  exchangeOrderId := some "7"
  symbol := "BTCUSDT"
  side := .buy
  type := .limit
  quantity := 1
  price := some 50000
  timeInForce := some .gtc
  stopPrice := none
  takeProfitPrice := none
  trailingPercent := none
  status := .new
  rejectReason := none
  avgFillPrice := none
  filledQuantity := 0
  quoteQuantity := 0
  submittedAt := some 0
  closedAt := none

def quarterFilledOrder : Order :=
  { restingOrder with
    status := .partiallyFilled
    avgFillPrice := some 50000
    filledQuantity := 1 / 4
    quoteQuantity := 12500 }

def halfFilled : Report where
  status := OrderStatus.partiallyFilled
  orderId := "7"
  price := some 50000
  executedQty := 1 / 2
  cummulativeQuoteQty := 25000

/-- The order was canceled before anything was filled. -/
def canceledUnfilled : Report where
  status := OrderStatus.canceled
  orderId := "7"
  price := some 50000
  executedQty := 0
  cummulativeQuoteQty := 0

/-- The environment that answers everything and gives this report. -/
def reporting (report : Report) : Fates := Outlook.fate { reported := .ok report.remote }

theorem reporting_serves (order : ConnectedOrder) (exchangeOrderId : String) (report : Report) :
    Serves (reporting report) order exchangeOrderId report.remote where
  found := rfl
  listed := rfl
  apiKey := ⟨_, rfl⟩
  apiSecret := ⟨_, rfl⟩
  reported := rfl
  updated _ := rfl
  logged _ := rfl

theorem synchronisers_agree_canceled :
    Synchronises (reporting canceledUnfilled) { aliceDesk with orders := [restingOrder] }
        (syncOrderStatus "alice" 0) 0 canceledUnfilled ∧
      Synchronises (reporting canceledUnfilled) { aliceDesk with orders := [restingOrder] }
        reconcileOpenOrders 0 canceledUnfilled :=
  (synchronisers_agree_iff (reporting canceledUnfilled)
    { aliceDesk with orders := [restingOrder] } 0 restingOrder
    ⟨⟨0, restingOrder⟩, aliceConnection⟩ "7" canceledUnfilled rfl (by decide +kernel) rfl
    (reporting_serves _ _ _)).mpr
    ⟨⟨by decide, by decide, by decide +kernel, by decide +kernel⟩, by decide +kernel⟩

/-- A partial fill that grows is not recorded by `syncOrderStatus`. -/
theorem not_synchronisers_agree :
    ¬ ∀ (fates : Fates) (desk : Desk) (id : ℕ) (row : Order) (order : ConnectedOrder)
      (exchangeOrderId : String) (report : Report), desk.orders[id]? = some row →
      desk.connected id row = some order → row.status ∉ terminalStatuses →
      row.exchangeOrderId = some exchangeOrderId →
      Serves fates order exchangeOrderId report.remote → LegalReport row report →
      Synchronises fates desk (syncOrderStatus row.userId id) id report ∧
        Synchronises fates desk reconcileOpenOrders id report := by
  intro claimed
  have found : [quarterFilledOrder][0]? = some quarterFilledOrder := rfl
  have joined : Desk.connected { aliceDesk with orders := [quarterFilledOrder] } 0
      quarterFilledOrder = some ⟨⟨0, quarterFilledOrder⟩, aliceConnection⟩ := by
    decide +kernel
  have serves := reporting_serves ⟨⟨0, quarterFilledOrder⟩, aliceConnection⟩ "7" halfFilled
  have legal : LegalReport quarterFilledOrder halfFilled :=
    ⟨⟨.partiallyFilled, rfl, by decide, by decide⟩, by decide +kernel, by decide +kernel⟩
  have synced := (claimed _ { aliceDesk with orders := [quarterFilledOrder] } 0
    quarterFilledOrder _ "7" halfFilled found joined (by decide) rfl serves legal).1
  have moved := ((synchronises_sync_iff found joined rfl serves).mp synced).1
  cases moved

end GdslExchange.Orders
