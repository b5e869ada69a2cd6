/-
This file follows one `placeOrder` call to its end and settles when the row it
leaves behind still holds an order that the exchange has accepted.

The five awaits that decide this (the creation of the row, the submission, the
row update, the event insert, and the row update of the `catch` block) each
happen at most once. `Account` collects what the log says of them; the phases of
the call are assertions about the account and the row.
-/

import GdslExchange.Orders.Transitions

namespace GdslExchange.Orders

open Async Async.Contract Async.Program

/-! ### What the log says -/

def acceptedOrder : Event oms → Option RemoteOrder
  | ⟨_, .placeRemoteOrder _, _, .ok remote⟩ => some remote
  | _ => none

/-- How the row update after the submission ended. -/
def submissionUpdate : Event oms → Option Delivery
  | ⟨_, .updateOrder _ patch, delivery, _⟩ =>
    if patch.exchangeOrderId.isSome then some delivery else none
  | _ => none

/-- How the insert of the submission's execution event ended. -/
def submissionEvent : Event oms → Option Delivery
  | ⟨_, .createExecutionEvent event, delivery, _⟩ =>
    if event.eventType = .orderSubmitted then some delivery else none
  | _ => none

/-- How the row update of the `catch` block ended. -/
def rejectionUpdate : Event oms → Option Delivery
  | ⟨_, .updateOrder _ patch, delivery, _⟩ =>
    if patch.rejectReason.isSome then some delivery else none
  | _ => none

/-- The awaits of a `placeOrder` call that decide what it leaves behind. -/
structure Account where
  created : Option ℕ
  accepted : Option RemoteOrder
  submission : Option Delivery
  event : Option Delivery
  rejection : Option Delivery

def account (moment : Moment oms) : Account where
  created := moment.log.findSome? createdRow
  accepted := moment.log.findSome? acceptedOrder
  submission := moment.log.findSome? submissionUpdate
  event := moment.log.findSome? submissionEvent
  rejection := moment.log.findSome? rejectionUpdate

/-! ### The property and the condition -/

def FinalStatus : RemoteStatus → OrderStatus → Prop
  | .listed status, last => last ∈ terminalStatuses ∧ Reaches status last
  | .unlisted _, last => last ∈ terminalStatuses

/-- The row still holds the order: it is not rejected unless the exchange rejected it, it has
the exchange's id and executed quantity, and every final status the order can have on the
exchange is still ahead of it. -/
structure HoldsOrder (row : Order) (remote : RemoteOrder) : Prop where
  rejected : row.status = .rejected → remote.status = OrderStatus.rejected
  exchangeOrderId : row.exchangeOrderId = some remote.orderId
  filledQuantity : row.filledQuantity = remote.executedQty.getD 0
  follows : ∀ last, FinalStatus remote.status last → Reaches row.status last

/-- The row the call created. -/
def rowLeft (moment : Moment oms) : Option Order :=
  (account moment).created.bind fun id => moment.state.orders[id]?

/-- The call left a row that holds the order. -/
def KeepsOrder (moment : Moment oms) (remote : RemoteOrder) : Prop :=
  ∃ row, rowLeft moment = some row ∧ HoldsOrder row remote

/-- The table has the reported status, the row update took effect, and the `catch` block did
not undo it: the exchange had rejected the order itself, or nothing failed after the
submission, or the update of the `catch` block was refused. -/
structure StoredInTime (account : Account) (remote : RemoteOrder) : Prop where
  listed : canTransitionOrderStatus .pendingSubmit remote.status = true
  stored : ∃ delivery, account.submission = some delivery ∧ delivery.Applies
  kept : remote.status = OrderStatus.rejected ∨
    (account.submission = some .answered ∧ account.event = some .answered) ∨
    ∃ message, account.rejection = some (.refused message)

/-! ### Phases of the call -/

/-- A row that has not been submitted. -/
structure Unsubmitted (row : Order) : Prop where
  status : row.status = .pendingSubmit
  exchangeOrderId : row.exchangeOrderId = none

/-- A row with the outcome of its submission. -/
structure Submitted (row : Order) (remote : RemoteOrder) : Prop where
  status : remote.status = row.status
  exchangeOrderId : row.exchangeOrderId = some remote.orderId
  filledQuantity : row.filledQuantity = remote.executedQty.getD 0

/-- A row update that is applied or not. -/
def Updated (delivery : Delivery) (applied idle : Prop) : Prop :=
  (delivery.Applies ∧ applied) ∨ (¬ delivery.Applies ∧ idle)

def RowIs (id : ℕ) (predicate : Order → Prop) (moment : Moment oms) : Prop :=
  ∃ row : Order, moment.state.orders[id]? = some row ∧ predicate row

def Unplaced (moment : Moment oms) : Prop :=
  account moment = ⟨none, none, none, none, none⟩

def Placing (id : ℕ) (moment : Moment oms) : Prop :=
  account moment = ⟨some id, none, none, none, none⟩ ∧
    RowIs id (fun row => Unsubmitted row ∧ row.filledQuantity = 0) moment

def Taken (id : ℕ) (remote : RemoteOrder) (moment : Moment oms) : Prop :=
  account moment = ⟨some id, some remote, none, none, none⟩ ∧
    RowIs id (fun row => Unsubmitted row ∧ row.filledQuantity = 0) moment

def Recorded (id : ℕ) (remote : RemoteOrder) (delivery : Delivery) (event : Option Delivery)
    (moment : Moment oms) : Prop :=
  account moment = ⟨some id, some remote, some delivery, event, none⟩ ∧
    canTransitionOrderStatus .pendingSubmit remote.status = true ∧
    RowIs id (fun row => Updated delivery (Submitted row remote) (Unsubmitted row)) moment

/-- The states in which the `catch` block takes over. -/
def Interrupted (id : ℕ) (moment : Moment oms) : Prop :=
  Placing id moment ∨ (∃ remote, Taken id remote moment) ∨
    ∃ remote delivery event, Recorded id remote delivery event moment ∧
      ¬ (delivery = .answered ∧ event = some .answered)

/-- What is settled once the last row update is done. -/
def Settled (moment : Moment oms) : Prop :=
  ∀ remote, (account moment).accepted = some remote →
    (KeepsOrder moment remote ↔ StoredInTime (account moment) remote)

variable {moment : Moment oms} {remote : RemoteOrder} {id : ℕ} {row : Order}

/-! ### Rows -/

theorem keepsOrder_iff (created : (account moment).created = some id)
    (found : moment.state.orders[id]? = some row) :
    KeepsOrder moment remote ↔ HoldsOrder row remote := by
  have left : rowLeft moment = some row := by
    unfold rowLeft
    rw [created]
    exact found
  unfold KeepsOrder
  simp only [left, Option.some.injEq, exists_eq_left']

theorem HoldsOrder.of_submitted (submitted : Submitted row remote) : HoldsOrder row remote where
  rejected isRejected := by rw [submitted.status, isRejected]
  exchangeOrderId := submitted.exchangeOrderId
  filledQuantity := submitted.filledQuantity
  follows last final := by
    rw [submitted.status] at final
    exact final.2

variable {message : String} {time : ℕ}

theorem holdsOrder_rejected_iff (submitted : Submitted row remote) :
    HoldsOrder ((rejectedPatch message time).apply row) remote ↔
      remote.status = OrderStatus.rejected := by
  constructor
  · intro holds
    exact holds.rejected rfl
  · intro isRejected
    have held := HoldsOrder.of_submitted submitted
    refine ⟨fun _ => isRejected, held.exchangeOrderId, held.filledQuantity, ?_⟩
    intro last final
    rw [isRejected] at final
    exact final.2

theorem not_storedInTime_of_unstored {account : Account}
    (unstored : ∀ delivery, account.submission = some delivery → ¬ delivery.Applies) :
    ¬ StoredInTime account remote := by
  intro inTime
  obtain ⟨delivery, isDelivery, applies⟩ := inTime.stored
  exact unstored delivery isDelivery applies

/-! ### Awaits -/

/-- The contract of a call that runs alone and promises nothing but its end. -/
abbrev placing : Contract oms := alone (fun _ => True) (fun _ => True) fun _ => True

/-- An operation that is no part of the account. -/
def Silent : Op → Prop
  | .now => True
  | .clientOrderId => True
  | .findConnection _ _ => True
  | .findLatestRiskRule _ => True
  | .findClosedTrades _ _ => True
  | .createRiskEvent _ => True
  | .tryGetBinanceSymbolRules _ => True
  | .decryptSecret _ => True
  | _ => False

theorem silent_of_preparing (op : Op) (preparing : Preparing op) : Silent op := by
  cases op <;> trivial

theorem account_after_silent {step : Step oms} (silent : Silent step.op) :
    account step.after = account step.before := by
  obtain ⟨before, caller, op, fate⟩ := step
  cases op <;> first | rfl | exact silent.elim

theorem orders_after_silent {step : Step oms} (silent : Silent step.op) :
    step.after.state.orders = step.before.state.orders := by
  refine orders_perform_of_quiet ?_ _ _
  obtain ⟨before, caller, op, fate⟩ := step
  cases op <;> trivial

/-- An assertion about the account and the order rows. -/
def Grounded (assertion : Moment oms → Prop) : Prop :=
  ∀ before after : Moment oms, account after = account before →
    after.state.orders = before.state.orders → assertion before → assertion after

theorem rowIs_grounded (id : ℕ) (predicate : Order → Prop) :
    Grounded (RowIs id predicate) := by
  rintro before after _ sameOrders ⟨row, found, holds⟩
  exact ⟨row, by rw [sameOrders]; exact found, holds⟩

theorem unplaced_grounded : Grounded Unplaced :=
  fun _ _ sameAccount _ unplaced => sameAccount.trans unplaced

theorem placing_grounded (id : ℕ) : Grounded (Placing id) :=
  fun before after sameAccount sameOrders holds =>
    ⟨sameAccount.trans holds.1, rowIs_grounded _ _ before after sameAccount sameOrders holds.2⟩

theorem taken_grounded (id : ℕ) (remote : RemoteOrder) : Grounded (Taken id remote) :=
  fun before after sameAccount sameOrders holds =>
    ⟨sameAccount.trans holds.1, rowIs_grounded _ _ before after sameAccount sameOrders holds.2⟩

theorem recorded_grounded (id : ℕ) (remote : RemoteOrder) (delivery : Delivery)
    (event : Option Delivery) : Grounded (Recorded id remote delivery event) :=
  fun before after sameAccount sameOrders holds =>
    ⟨sameAccount.trans holds.1, holds.2.1,
      rowIs_grounded _ _ before after sameAccount sameOrders holds.2.2⟩

theorem interrupted_grounded (id : ℕ) : Grounded (Interrupted id) := by
  rintro before after sameAccount sameOrders
    (placing | ⟨remote, taken⟩ | ⟨remote, delivery, event, recorded, failure⟩)
  · exact Or.inl (placing_grounded id before after sameAccount sameOrders placing)
  · exact Or.inr (Or.inl ⟨remote, taken_grounded id remote before after sameAccount sameOrders
      taken⟩)
  · exact Or.inr (Or.inr ⟨remote, delivery, event, recorded_grounded id remote delivery event
      before after sameAccount sameOrders recorded, failure⟩)

theorem settled_grounded : Grounded Settled := by
  intro before after sameAccount sameOrders settled remote accepted
  unfold KeepsOrder rowLeft
  rw [sameAccount] at accepted ⊢
  rw [sameOrders]
  exact settled remote accepted

theorem silent_program {Value : Type} {assertion : Moment oms → Prop} {program : Call Value}
    (silent : program.Only Silent) (grounded : Grounded assertion) :
    placing.Triple 0 assertion program
      (outcome (fun _ => assertion) fun _ => assertion) := by
  refine Triple.only (fun op silentOp => Triple.alone fun before fate holds _ _ => ?_) silent
  refine ⟨trivial, trivial, ?_⟩
  rw [outcome_const]
  exact grounded before _ (account_after_silent silentOp) (orders_after_silent silentOp) holds

theorem settled_of_unaccepted (unaccepted : (account moment).accepted = none) : Settled moment := by
  intro remote accepted
  rw [unaccepted] at accepted
  cases accepted

/-- The row is created, or the call ends without a submission. -/
theorem createOrder_placing {order : Order} (unsubmitted : Unsubmitted order)
    (unfilled : order.filledQuantity = 0) :
    placing.Triple 0 Unplaced (await (.createOrder order))
      (outcome (fun stored => Placing stored.id) fun _ => Settled) := by
  refine Triple.alone fun before delivery unplaced _ _ => ⟨trivial, trivial, ?_⟩
  set step : Step oms := ⟨before, 0, .createOrder order, delivery⟩ with stepIs
  have log : account step.after =
      { account before with created := (createdRow step.event).or (account before).created } := by
    cases delivery <;> rfl
  rw [unplaced] at log
  cases delivery with
  | answered => exact ⟨log, order, List.getElem?_concat_length, unsubmitted, unfilled⟩
  | refused message => exact settled_of_unaccepted (by rw [log])
  | lost message => exact settled_of_unaccepted (by rw [log])

/-- The exchange accepts the order, or the `catch` block takes over. -/
theorem placeRemoteOrder_placing {request : RemoteRequest} :
    placing.Triple 0 (Placing id) (await (.placeRemoteOrder request))
      (outcome (fun remote => Taken id remote) fun _ => Interrupted id) := by
  refine Triple.alone fun before submission holds _ _ => ⟨trivial, trivial, ?_⟩
  obtain ⟨log, row⟩ := holds
  cases submission with
  | accepted remote =>
    refine ⟨?_, row⟩
    show { account before with accepted := some remote } = _
    rw [log]
  | refused message => exact Or.inl ⟨log, row⟩
  | lost message => exact Or.inl ⟨log, row⟩

/-- The row update after the submission. -/
theorem submitted_placing {status : OrderStatus} (isStatus : remote.status = status)
    (checked : canTransitionOrderStatus .pendingSubmit status = true) :
    placing.Triple 0 (Taken id remote)
      (await (.updateOrder id (submittedPatch remote status time)))
      (outcome (fun _ => Recorded id remote .answered none) fun _ => Interrupted id) := by
  refine Triple.alone fun before delivery holds _ _ => ⟨trivial, trivial, ?_⟩
  obtain ⟨log, row, found, unsubmitted, unfilled⟩ := holds
  set step : Step oms := ⟨before, 0, .updateOrder id (submittedPatch remote status time),
    delivery⟩ with stepIs
  have recorded : Recorded id remote delivery none step.after := by
    refine ⟨?_, by rw [isStatus]; exact checked, _, row_perform_update delivery found, ?_⟩
    · show { account before with submission := some delivery } = _
      rw [log]
    · by_cases applies : delivery.Applies
      · rw [if_pos applies]
        refine Or.inl ⟨applies, isStatus, rfl, ?_⟩
        show (remote.executedQty).getD row.filledQuantity = _
        rw [unfilled]
      · rw [if_neg applies]
        exact Or.inr ⟨applies, unsubmitted⟩
  have replied : step.reply = delivery.reply _ := reply_perform_update delivery found
  cases delivery with
  | answered =>
    rw [replied]
    exact recorded
  | refused message =>
    rw [replied]
    exact Or.inr (Or.inr ⟨remote, _, none, recorded, fun both => by cases both.1⟩)
  | lost message =>
    rw [replied]
    exact Or.inr (Or.inr ⟨remote, _, none, recorded, fun both => by cases both.1⟩)

theorem submissionEvent_placing {userId : String} :
    placing.Triple 0 (Recorded id remote .answered none)
      (await (.createExecutionEvent ⟨userId, id, .orderSubmitted, .remote remote⟩))
      (outcome (fun _ => Recorded id remote .answered (some .answered)) fun _ => Interrupted id) := by
  refine Triple.alone fun before delivery holds _ _ => ⟨trivial, trivial, ?_⟩
  obtain ⟨log, checked, row, found, updated⟩ := holds
  set step : Step oms := ⟨before, 0, .createExecutionEvent
    ⟨userId, id, .orderSubmitted, .remote remote⟩, delivery⟩ with stepIs
  have quiet : Quiet step.op := trivial
  have recorded : Recorded id remote .answered (some delivery) step.after := by
    refine ⟨?_, checked, row, ?_, updated⟩
    · show { account before with event := some delivery } = _
      rw [log]
    · have same : step.after.state.orders = before.state.orders :=
        orders_perform_of_quiet quiet _ _
      rw [same]
      exact found
  cases delivery with
  | answered => exact recorded
  | refused message =>
    exact Or.inr (Or.inr ⟨remote, _, _, recorded, fun both => by cases both.2⟩)
  | lost message =>
    exact Or.inr (Or.inr ⟨remote, _, _, recorded, fun both => by cases both.2⟩)

theorem settled_of_recorded (recorded : Recorded id remote .answered (some .answered) moment) :
    Settled moment := by
  obtain ⟨log, checked, row, found, updated⟩ := recorded
  intro report accepted
  rw [keepsOrder_iff (by rw [log]) found]
  rw [log] at accepted ⊢
  cases accepted
  have submitted : Submitted row remote := by
    rcases updated with ⟨_, submitted⟩ | ⟨refused, _⟩
    · exact submitted
    · exact absurd trivial refused
  exact iff_of_true (.of_submitted submitted)
    ⟨checked, ⟨_, rfl, trivial⟩, Or.inr (Or.inl ⟨rfl, rfl⟩)⟩

theorem Unsubmitted.not_held (unsubmitted : Unsubmitted row) (applies : Prop) [Decidable applies] :
    ¬ HoldsOrder (if applies then (rejectedPatch message time).apply row else row) remote := by
  intro holds
  have present := holds.exchangeOrderId
  split at present
  · have kept : row.exchangeOrderId = some remote.orderId := present
    rw [unsubmitted.exchangeOrderId] at kept
    cases kept
  · rw [unsubmitted.exchangeOrderId] at present
    cases present

/-- The row update of the `catch` block settles the account. -/
theorem rejected_placing :
    placing.Triple 0 (Interrupted id) (await (.updateOrder id (rejectedPatch message time)))
      (outcome (fun _ => Settled) fun _ => Settled) := by
  refine Triple.alone fun before delivery holds _ _ => ⟨trivial, trivial, ?_⟩
  rw [outcome_const]
  set step : Step oms := ⟨before, 0, .updateOrder id (rejectedPatch message time), delivery⟩
    with stepIs
  have log : account step.after = { account before with rejection := some delivery } := rfl
  rcases holds with ⟨isPlacing, _⟩ | ⟨remote, isTaken, row, found, unsubmitted, _⟩ |
    ⟨remote, first, event, ⟨isRecorded, checked, row, found, updated⟩, failure⟩
  · refine settled_of_unaccepted ?_
    rw [log, isPlacing]
  all_goals
    have after : step.after.state.orders[id]? = _ := row_perform_update delivery found
    intro report accepted
  · rw [keepsOrder_iff (by rw [log, isTaken]) after, log, isTaken]
    exact iff_of_false (unsubmitted.not_held _)
      (not_storedInTime_of_unstored fun _ impossible => by cases impossible)
  · rw [keepsOrder_iff (by rw [log, isRecorded]) after]
    rw [log, isRecorded] at accepted ⊢
    cases accepted
    rcases updated with ⟨applied, submitted⟩ | ⟨refused, unsubmitted⟩
    · by_cases rejects : delivery.Applies
      · rw [if_pos rejects, holdsOrder_rejected_iff submitted]
        constructor
        · exact fun isRejected => ⟨checked, ⟨_, rfl, applied⟩, Or.inl isRejected⟩
        · intro inTime
          rcases inTime.kept with isRejected | both | ⟨message, isRefused⟩
          · exact isRejected
          · exact absurd ⟨Option.some.inj both.1, both.2⟩ failure
          · rw [Option.some.inj isRefused] at rejects
            exact rejects.elim
      · rw [if_neg rejects]
        refine iff_of_true (.of_submitted submitted) ⟨checked, ⟨_, rfl, applied⟩, ?_⟩
        cases delivery with
        | answered => exact absurd trivial rejects
        | lost message => exact absurd trivial rejects
        | refused message => exact Or.inr (Or.inr ⟨message, rfl⟩)
    · refine iff_of_false (unsubmitted.not_held _)
        (not_storedInTime_of_unstored fun _ isFirst => ?_)
      cases isFirst
      exact refused

/-! ### The call -/

theorem rejectOrder_placing (input : CreateOrderInput) (id : ℕ) (message : String) :
    placing.Triple 0 (Interrupted id) (rejectOrder input id message)
      (outcome (fun _ => Settled) fun _ => Settled) := by
  have stamped : placing.Triple 0 (Interrupted id) (await .now)
      (outcome (fun _ => Interrupted id) fun _ => Settled) :=
    Triple.alone fun before _ holds _ _ => ⟨trivial, trivial,
      interrupted_grounded id before _ rfl rfl holds⟩
  refine Triple.bind stamped fun time => ?_
  refine Triple.bind rejected_placing fun _ => ?_
  refine Triple.bind ?_ fun _ => Triple.failed fun _ settled => settled
  refine Triple.alone fun before delivery settled _ _ => ⟨trivial, trivial, ?_⟩
  rw [outcome_const]
  have quiet : ∀ event, Quiet (.createExecutionEvent event) := fun _ => trivial
  exact settled_grounded before _ rfl (orders_perform_of_quiet (quiet _) _ _) settled

theorem submitOrder_placing (input : CreateOrderInput) (connection : ExchangeConnection)
    (quantity : ℚ) (clientOrderId : String) (id : ℕ) :
    placing.Triple 0 (Placing id) (submitOrder input connection quantity clientOrderId id)
      (outcome (fun _ => Settled) fun _ => Interrupted id) := by
  have silently : ∀ {Value : Type} {program : Call Value}, program.Only Silent →
      placing.Triple 0 (Placing id) program
        (outcome (fun _ => Placing id) fun _ => Interrupted id) :=
    fun silent => (silent_program silent (placing_grounded id)).throwing
      fun _ _ holds => Or.inl holds
  refine Triple.bind (silently (only_perform trivial)) fun apiKey => ?_
  refine Triple.bind (silently (only_perform trivial)) fun apiSecret => ?_
  have submits : ∀ sent : PlaceOrderInput, placing.Triple 0 (Placing id) (adapterPlaceOrder sent)
      (outcome (fun remote => Taken id remote) fun _ => Interrupted id) := by
    intro sent
    unfold adapterPlaceOrder
    split
    · exact Triple.failed fun _ holds => Or.inl holds
    · exact placeRemoteOrder_placing
  refine Triple.bind (submits _) fun remote => ?_
  have checks : placing.Triple 0 (Taken id remote)
      (requireTransition .pendingSubmit remote.status)
      (outcome (fun status moment => (remote.status = status ∧
        canTransitionOrderStatus .pendingSubmit status = true) ∧ Taken id remote moment)
        fun _ => Interrupted id) := by
    unfold requireTransition
    split
    next status isStatus =>
      split
      next checked =>
        rw [isStatus] at checked
        exact Triple.done fun _ taken => ⟨⟨isStatus, checked⟩, taken⟩
      · exact Triple.failed fun _ taken => Or.inr (Or.inl ⟨remote, taken⟩)
    · exact Triple.failed fun _ taken => Or.inr (Or.inl ⟨remote, taken⟩)
  refine Triple.bind checks fun status => Triple.given fun checked => ?_
  have stamped : placing.Triple 0 (Taken id remote) (await .now)
      (outcome (fun _ => Taken id remote) fun _ => Interrupted id) :=
    Triple.alone fun before _ taken _ _ => ⟨trivial, trivial,
      taken_grounded id remote before _ rfl rfl taken⟩
  refine Triple.bind stamped fun time => ?_
  refine Triple.bind (submitted_placing checked.1 checked.2) fun updated => ?_
  refine Triple.bind submissionEvent_placing fun _ => ?_
  exact Triple.done fun _ recorded => settled_of_recorded recorded

theorem placeOrder_placing (input : CreateOrderInput) :
    placing.Triple 0 Unplaced (placeOrder input)
      (outcome (fun _ => Settled) fun _ => Settled) := by
  have silently : ∀ {Value : Type} {program : Call Value}, program.Only Silent →
      placing.Triple 0 Unplaced program (outcome (fun _ => Unplaced) fun _ => Settled) :=
    fun silent => (silent_program silent unplaced_grounded).throwing
      fun _ _ unplaced => settled_of_unaccepted (by rw [unplaced])
  refine Triple.bind (silently ((only_prepareOrder input).mono silent_of_preparing))
    fun prepared => ?_
  refine Triple.bind (silently (only_perform trivial)) fun clientOrderId => ?_
  refine Triple.bind (createOrder_placing ⟨rfl, rfl⟩ rfl) fun order => ?_
  exact Triple.recover (submitOrder_placing input _ _ clientOrderId order.id)
    fun message => rejectOrder_placing input order.id message

/-- The system in which one `placeOrder` call has just been made. -/
def placingSystem (desk : Desk) (input : CreateOrderInput) : System oms (Stored Order) :=
  .solo desk (placeOrder input)

/-- When a `placeOrder` call whose order the exchange accepted has ended, it has kept the order
exactly when it was stored in time. -/
theorem keepsOrder_iff_storedInTime (desk : Desk) (input : CreateOrderInput)
    (turns : List (Turn oms)) (call : Call (Stored Order))
    (isCall : ((placingSystem desk input).run turns).calls[0]? = some call)
    (ended : call.result?.isSome) (remote : RemoteOrder)
    (accepted : (account ((placingSystem desk input).run turns).moment).accepted = some remote) :
    KeepsOrder ((placingSystem desk input).run turns).moment remote ↔
      StoredInTime (account ((placingSystem desk input).run turns).moment) remote := by
  have triple : placing.Triple 0 (fun moment => moment = ⟨desk, []⟩) (placeOrder input)
      (outcome (fun _ => Settled) fun _ => Settled) :=
    (placeOrder_placing input).weaken (fun _ start => by rw [start]; rfl) fun _ _ post => post
  have holds := (sound_alone trivial triple turns fun _ _ => trivial).1.calls 0 call isCall
  obtain ⟨result, isResult⟩ := Option.isSome_iff_exists.mp ended
  have settled := outcome_const.mp (holds.ended isResult rfl)
  exact settled remote accepted

/-! ### An order that expires at once -/

/-- The exchange fills half of the order and expires the rest. -/
def expiredReport : RemoteOrder where
  status := OrderStatus.expired
  orderId := "7"
  price := none
  executedQty := some (1 / 2)
  cummulativeQuoteQty := some 25000

def filledReport : RemoteOrder where
  status := OrderStatus.filled
  orderId := "7"
  price := none
  executedQty := some 1
  cummulativeQuoteQty := some 50000

/-- The schedule in which the exchange answers with this report and no call fails. -/
def reportedTurns (report : RemoteOrder) : List (Turn oms) :=
  List.replicate 14 (Outlook.turn { placed := .accepted report } 0)

def reportedRun (report : RemoteOrder) : System oms (Stored Order) :=
  (placingSystem aliceDesk aliceBuy).run (reportedTurns report)

/-- A filled order is kept. -/
theorem keepsOrder_filled :
    KeepsOrder (reportedRun filledReport).moment filledReport :=
  (keepsOrder_iff_storedInTime aliceDesk aliceBuy (reportedTurns filledReport)
    ((reportedRun filledReport).calls.get ⟨0, by decide +kernel⟩) rfl (by decide +kernel)
    filledReport (by decide +kernel)).mpr
    ⟨by decide +kernel, ⟨.answered, by decide +kernel, trivial⟩,
      Or.inr (Or.inl ⟨by decide +kernel, by decide +kernel⟩)⟩

/-- An order that the exchange has filled in part and expired is left without its id. -/
theorem not_keepsOrder :
    ¬ ∀ (desk : Desk) (input : CreateOrderInput) (turns : List (Turn oms))
      (call : Call (Stored Order)),
      ((placingSystem desk input).run turns).calls[0]? = some call → call.result?.isSome →
      ∀ remote : RemoteOrder,
        (account ((placingSystem desk input).run turns).moment).accepted = some remote →
        KeepsOrder ((placingSystem desk input).run turns).moment remote := by
  intro claimed
  obtain ⟨row, left, holds⟩ := claimed aliceDesk aliceBuy (reportedTurns expiredReport)
    ((reportedRun expiredReport).calls.get ⟨0, by decide +kernel⟩) rfl (by decide +kernel)
    expiredReport (by decide +kernel)
  have absent : (rowLeft (reportedRun expiredReport).moment).bind Order.exchangeOrderId = none := by
    decide +kernel
  have present : row.exchangeOrderId = none := by
    have found : rowLeft (reportedRun expiredReport).moment = some row := left
    rw [found] at absent
    exact absent
  rw [holds.exchangeOrderId] at present
  cases present

end GdslExchange.Orders
