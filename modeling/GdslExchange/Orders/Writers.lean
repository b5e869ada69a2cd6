/-
This file proves that the three writers of order rows meet the contract of
`Transitions`, and settles when every stored status moves along the table.

Each writer knows one thing while it is suspended: that a row it created is
still pending, that it created a row, or what it last read from a row. These are
the assertions below; the awaits that touch no order row keep all of them.
-/

import GdslExchange.Orders.Transitions

namespace GdslExchange.Orders

open Async Async.Contract Async.Program

/-! ### Assertions -/

/-- The caller created this row, and it has not been submitted. -/
def Pending (caller id : ℕ) (moment : Moment oms) : Prop :=
  Created moment caller id ∧ ∃ row : Order, moment.state.orders[id]? = some row ∧
    row.status = .pendingSubmit ∧ row.exchangeOrderId = none

/-- The caller read this status from a submitted row, which has moved on along the table. -/
def Seen (caller id : ℕ) (read : OrderStatus) (moment : Moment oms) : Prop :=
  readStatus moment caller id = some read ∧ read ≠ .pendingSubmit ∧
    ∃ row : Order, moment.state.orders[id]? = some row ∧ Reaches read row.status ∧
      row.exchangeOrderId.isSome

def SeenAll (caller : ℕ) (orders : List ConnectedOrder) (moment : Moment oms) : Prop :=
  ∀ order ∈ orders, order.row.exchangeOrderId.isSome →
    Seen caller order.id order.row.status moment

/-- An assertion about the order rows and about what the caller has learnt of them, and
nothing else. -/
def Framed (caller : ℕ) (assertion : Moment oms → Prop) : Prop :=
  ∀ before after : Moment oms, after.state.orders = before.state.orders →
    (∀ id, Created after caller id ↔ Created before caller id) →
    (∀ id, readStatus after caller id = readStatus before caller id) →
    assertion before → assertion after

section Assertions

variable {caller id : ℕ}

theorem created_stable :
    statusContract.Stable caller fun moment => Created moment caller id :=
  fun _ _ created advances _ => (created_congr advances.own id).mpr created

theorem created_framed : Framed caller fun moment => Created moment caller id :=
  fun _ _ _ sameCreated _ created => (sameCreated id).mpr created

theorem pending_stable : statusContract.Stable caller (Pending caller id) := by
  rintro moment later ⟨created, row, found, pending, absent⟩ advances _
  exact ⟨(created_congr advances.own id).mpr created, row,
    advances.owned id row created found absent, pending, absent⟩

theorem pending_framed : Framed caller (Pending caller id) := by
  rintro before after sameOrders sameCreated _ ⟨created, row, found, facts⟩
  exact ⟨(sameCreated id).mpr created, row, by rw [sameOrders]; exact found, facts⟩

theorem Seen.progress {read : OrderStatus} {before after : Moment oms}
    (seen : Seen caller id read before) (progress : Progress before after)
    (sameRead : readStatus after caller id = readStatus before caller id) :
    Seen caller id read after := by
  obtain ⟨shown, submitted, row, found, reaches, isSome⟩ := seen
  obtain ⟨later, foundLater, further, keeps⟩ := progress id row found
  exact ⟨sameRead.trans shown, submitted, later, foundLater, reaches.trans further,
    keeps isSome⟩

theorem seen_stable {read : OrderStatus} :
    statusContract.Stable caller (Seen caller id read) := by
  intro moment later seen advances _
  refine seen.progress advances.progress ?_
  unfold readStatus
  rw [advances.own]

theorem seen_framed {read : OrderStatus} : Framed caller (Seen caller id read) := by
  rintro before after sameOrders _ sameRead ⟨shown, submitted, row, found, facts⟩
  exact ⟨(sameRead id).trans shown, submitted, row, by rw [sameOrders]; exact found, facts⟩

theorem seenAll_stable {orders : List ConnectedOrder} :
    statusContract.Stable caller (SeenAll caller orders) :=
  fun moment later seen advances invariant order member isSome =>
    seen_stable moment later (seen order member isSome) advances invariant

theorem seenAll_framed {orders : List ConnectedOrder} :
    Framed caller (SeenAll caller orders) :=
  fun before after sameOrders sameCreated sameRead seen order member isSome =>
    seen_framed before after sameOrders sameCreated sameRead (seen order member isSome)

theorem true_stable : statusContract.Stable caller fun _ => True :=
  fun _ _ _ _ _ => trivial

theorem true_framed : Framed caller fun _ => True :=
  fun _ _ _ _ _ _ => trivial

end Assertions

/-! ### Quiet operations -/

section Quiet

variable {step : Step oms}

theorem quiet_createdRow (quiet : Quiet step.op) : createdRow step.event = none := by
  obtain ⟨before, caller, op, fate⟩ := step
  cases op with
  | createOrder order => exact quiet.elim
  | _ => rfl

theorem quiet_shownStatus (quiet : Quiet step.op) (id : ℕ) :
    shownStatus id step.event = none := by
  obtain ⟨before, caller, op, fate⟩ := step
  cases op with
  | findOrder id userId => exact quiet.elim
  | findOpenOrders => exact quiet.elim
  | _ => rfl

theorem quiet_timely (quiet : Quiet step.op) : TimelyWrite step := by
  obtain ⟨before, caller, op, fate⟩ := step
  cases op with
  | updateOrder id patch => exact quiet.elim
  | _ => trivial

end Quiet

variable {caller : ℕ} {Value : Type}

theorem quiet_perform {assertion : Moment oms → Prop} {op : Op} (quiet : Quiet op)
    (stable : statusContract.Stable caller assertion) (framed : Framed caller assertion) :
    statusContract.Triple caller assertion (await op)
      (outcome (fun _ => assertion) fun _ => assertion) := by
  refine Triple.perform stable fun before fate holds invariant _ => ?_
  set step : Step oms := ⟨before, caller, op, fate⟩ with stepIs
  have quietStep : Quiet step.op := quiet
  refine ⟨respects_of_orders_eq invariant (orders_perform_of_quiet quietStep _ _)
    (quiet_createdRow quietStep) (quiet_timely quietStep), ?_⟩
  rw [outcome_const]
  exact framed before _ (orders_perform_of_quiet quietStep _ _)
    (created_after (quiet_createdRow quietStep) caller)
    (fun id => readStatus_after (quiet_shownStatus quietStep id) caller) holds

theorem quiet_program {assertion : Moment oms → Prop} {program : Call Value}
    (quiet : program.Only Quiet) (stable : statusContract.Stable caller assertion)
    (framed : Framed caller assertion) :
    statusContract.Triple caller assertion program
      (outcome (fun _ => assertion) fun _ => assertion) :=
  Triple.only (fun _ quietOp => quiet_perform quietOp stable framed) quiet

/-! ### Creating and reading rows -/

theorem getElem?_append_of_lt {Row : Type} {rows : List Row} {row added : Row} {id : ℕ}
    (found : rows[id]? = some row) : (rows ++ [added])[id]? = some row := by
  rw [List.getElem?_append_left (List.getElem?_eq_some_iff.mp found).1]
  exact found

section Creating

variable {before : Moment oms} {order : Order}

/-- The order is added to the rows, or nothing is. -/
theorem orders_createOrder (delivery : Delivery) :
    (Step.mk before caller (.createOrder order) delivery).after.state.orders =
        before.state.orders ∨
      (Step.mk before caller (.createOrder order) delivery).after.state.orders =
        before.state.orders ++ [order] := by
  cases delivery with
  | answered => exact Or.inr rfl
  | refused message => exact Or.inl rfl
  | lost message => exact Or.inr rfl

theorem createdRow_createOrder {delivery : Delivery} {id : ℕ}
    (created : createdRow (Step.mk before caller (.createOrder order) delivery).event = some id) :
    id = before.state.orders.length ∧
      (Step.mk before caller (.createOrder order) delivery).after.state.orders =
        before.state.orders ++ [order] := by
  cases delivery with
  | answered =>
    cases created
    exact ⟨rfl, rfl⟩
  | refused message => cases created
  | lost message => cases created

theorem created_after_createOrder {delivery : Delivery} {other id : ℕ}
    (created : Created (Step.mk before caller (.createOrder order) delivery).after other id) :
    Created before other id ∨ (other = caller ∧
      createdRow (Step.mk before caller (.createOrder order) delivery).event = some id) := by
  set step : Step oms := ⟨before, caller, .createOrder order, delivery⟩
  by_cases same : other = caller
  · obtain ⟨event, member, makes⟩ := created
    rw [same, Step.own_after_self] at member
    rcases List.mem_cons.mp member with isEvent | earlier
    · subst isEvent
      exact Or.inr ⟨same, makes⟩
    · exact Or.inl ⟨event, by rw [same]; exact earlier, makes⟩
  · exact Or.inl ((created_congr (Step.own_after_other step same) id).mp created)

theorem kept_createOrder (delivery : Delivery) {id : ℕ} {row : Order}
    (found : before.state.orders[id]? = some row) :
    (Step.mk before caller (.createOrder order) delivery).after.state.orders[id]? = some row := by
  rcases @orders_createOrder caller before order delivery with same | appended
  · rw [same]
    exact found
  · rw [appended]
    exact getElem?_append_of_lt found

theorem bookInvariant_createOrder (absent : order.exchangeOrderId = none) (delivery : Delivery)
    (invariant : BookInvariant before) :
    BookInvariant (Step.mk before caller (.createOrder order) delivery).after := by
  have fresh : ∀ other id, Created before other id → id ≠ before.state.orders.length :=
    fun other id created => Nat.ne_of_lt (invariant.stored other id created)
  have orders := @orders_createOrder caller before order delivery
  refine ⟨?_, ?_, ?_⟩
  · intro first second id createdFirst createdSecond
    rcases created_after_createOrder createdFirst with earlier | ⟨isFirst, makes⟩ <;>
      rcases created_after_createOrder createdSecond with earlier' | ⟨isSecond, makes'⟩
    · exact invariant.creator first second id earlier earlier'
    · exact absurd (createdRow_createOrder makes').1 (fresh first id earlier)
    · exact absurd (createdRow_createOrder makes).1 (fresh second id earlier')
    · rw [isFirst, isSecond]
  · intro creator id created
    rcases created_after_createOrder created with earlier | ⟨_, makes⟩
    · have bound := invariant.stored creator id earlier
      rcases orders with same | appended
      · rw [same]
        exact bound
      · rw [appended, List.length_append]
        exact Nat.lt_add_right _ bound
    · obtain ⟨isLast, appended⟩ := createdRow_createOrder makes
      rw [appended, List.length_append, isLast]
      exact Nat.lt_succ_self _
  · intro id row found isSome
    rcases orders with same | appended
    · rw [same] at found
      exact invariant.sent id row found isSome
    · rw [appended] at found
      rcases lt_or_ge id before.state.orders.length with earlier | later
      · rw [List.getElem?_append_left earlier] at found
        exact invariant.sent id row found isSome
      · rw [List.getElem?_append_right later] at found
        have isOrder : row = order := List.mem_singleton.mp (List.mem_of_getElem? found)
        rw [isOrder, absent] at isSome
        cases isSome

end Creating

/-- Creating a pending row: whoever is told its id owns it. -/
theorem create_perform {order : Order} (pending : order.status = .pendingSubmit)
    (absent : order.exchangeOrderId = none) :
    statusContract.Triple caller (fun _ => True) (await (.createOrder order))
      (outcome (fun stored => Pending caller stored.id) fun _ _ => True) := by
  refine Triple.perform true_stable fun before delivery _ invariant _ => ?_
  set step : Step oms := ⟨before, caller, .createOrder order, delivery⟩ with stepIs
  have legal : StatusLegal step := by
    intro id old new found foundAfter
    rw [kept_createOrder delivery found] at foundAfter
    cases foundAfter
    exact Or.inl rfl
  refine ⟨⟨iff_of_true trivial legal, bookInvariant_createOrder absent delivery invariant, ?_⟩, ?_⟩
  · intro other different
    exact ⟨Step.own_after_other step different,
      fun id row found =>
        ⟨row, kept_createOrder delivery found, Reaches.refl _, fun isSome => isSome⟩,
      fun id row _ found _ => kept_createOrder delivery found⟩
  · cases delivery with
    | answered =>
      refine ⟨⟨step.event, ?_, rfl⟩, order, List.getElem?_concat_length, pending, absent⟩
      rw [Step.own_after_self]
      exact List.mem_cons_self
    | refused message => trivial
    | lost message => trivial

theorem seen_of_read {moment : Moment oms} {id : ℕ} {row : Order}
    (invariant : BookInvariant moment) (found : moment.state.orders[id]? = some row)
    (sent : row.exchangeOrderId.isSome) (shown : readStatus moment caller id = some row.status) :
    Seen caller id row.status moment :=
  ⟨shown, invariant.sent id row found sent, row, found, Reaches.refl _, sent⟩

theorem readStatus_of_shown {step : Step oms} {id : ℕ} {status : OrderStatus}
    (shown : shownStatus id step.event = some status) :
    readStatus step.after step.caller id = some status := by
  unfold readStatus
  rw [Step.own_after_self, List.findSome?_cons, shown]

theorem findOrder_perform {id : ℕ} {userId : String} :
    statusContract.Triple caller (fun _ => True) (await (.findOrder id userId))
      (outcome (fun found moment => ∀ order, found = some order →
        order.row.exchangeOrderId.isSome → Seen caller order.id order.row.status moment)
        fun _ _ => True) := by
  refine Triple.perform true_stable fun before delivery _ invariant _ => ?_
  set step : Step oms := ⟨before, caller, .findOrder id userId, delivery⟩ with stepIs
  have same : step.after.state.orders = before.state.orders := by
    cases delivery <;> rfl
  have respects : statusContract.Respects step :=
    respects_of_orders_eq invariant same rfl trivial
  refine ⟨respects, ?_⟩
  cases delivery with
  | refused message => trivial
  | lost message => trivial
  | answered =>
    intro order isFound isSome
    obtain ⟨row, filtered, joined⟩ := Option.bind_eq_some_iff.mp isFound
    obtain ⟨stored, _⟩ := Option.filter_eq_some_iff.mp filtered
    obtain ⟨sameId, sameRow⟩ := connected_row joined
    rw [← sameId, ← sameRow] at stored
    refine seen_of_read respects.invariant stored isSome (readStatus_of_shown ?_)
    show shownStatus order.id ⟨caller, .findOrder id userId, .answered,
      .ok ((before.state.orders[id]?.filter _).bind _)⟩ = _
    rw [isFound]
    show (if order.id = order.id then _ else _) = _
    rw [if_pos rfl]

theorem findOpenOrders_perform :
    statusContract.Triple caller (fun _ => True) (await .findOpenOrders)
      (outcome (fun orders => SeenAll caller orders) fun _ _ => True) := by
  refine Triple.perform true_stable fun before delivery _ invariant _ => ?_
  set step : Step oms := ⟨before, caller, .findOpenOrders, delivery⟩ with stepIs
  have same : step.after.state.orders = before.state.orders := by
    cases delivery <;> rfl
  have respects : statusContract.Respects step :=
    respects_of_orders_eq invariant same rfl trivial
  refine ⟨respects, ?_⟩
  cases delivery with
  | refused message => trivial
  | lost message => trivial
  | answered =>
    intro order member isSome
    have stored := (openOrders_row (List.mem_of_mem_take member)).1
    refine seen_of_read respects.invariant stored isSome (readStatus_of_shown ?_)
    have present : ((before.state.openOrders.take 200).find? fun candidate =>
        candidate.id = order.id).isSome := by
      rw [List.find?_isSome]
      exact ⟨order, member, decide_eq_true rfl⟩
    obtain ⟨first, isFirst⟩ := Option.isSome_iff_exists.mp present
    show ((before.state.openOrders.take 200).find? _).map _ = _
    have storedFirst :=
      (openOrders_row (List.mem_of_mem_take (List.mem_of_find?_eq_some isFirst))).1
    have sameId : first.id = order.id := by
      have matched := List.find?_some isFirst
      exact of_decide_eq_true matched
    rw [sameId, stored] at storedFirst
    rw [isFirst, Option.map_some, Option.some.inj storedFirst]

/-! ### Writing rows -/

theorem progress_of_respects {step : Step oms} (respects : statusContract.Respects step) :
    Progress step.before step.after :=
  (respects.others (step.caller + 1) (Nat.succ_ne_self _)).progress

/-- After a timely read, being undisturbed is being legal. -/
theorem undisturbed_iff_moves {read stored written : OrderStatus}
    (submitted : read ≠ .pendingSubmit) (checked : canTransitionOrderStatus read written = true)
    (reaches : Reaches read stored) :
    Undisturbed read stored written ↔ Moves stored written := by
  revert read stored written
  decide

theorem mem_rejectable_iff (stored : OrderStatus) :
    stored ∈ [OrderStatus.pendingSubmit, .new, .rejected] ↔ Moves stored .rejected := by
  revert stored
  decide

theorem not_pendingSubmit_of_canTransition {source target : OrderStatus}
    (checked : canTransitionOrderStatus source target = true) : target ≠ .pendingSubmit := by
  revert source target
  decide

theorem submitted_perform {id : ℕ} {remote : RemoteOrder} {status : OrderStatus} {time : ℕ}
    (checked : canTransitionOrderStatus .pendingSubmit status = true) :
    statusContract.Triple caller (Pending caller id)
      (await (.updateOrder id (submittedPatch remote status time)))
      (outcome (fun _ moment => Created moment caller id)
        fun _ moment => Created moment caller id) := by
  refine Triple.perform pending_stable fun before delivery holds invariant allowed => ?_
  obtain ⟨created, row, found, pending, absent⟩ := holds
  refine ⟨respects_update invariant rfl (not_pendingSubmit_of_canTransition checked) allowed
    ?_ ?_, ?_⟩
  · intro stored foundStored _
    rw [found] at foundStored
    cases foundStored
    rw [pending]
    exact iff_of_true (fun _ _ _ _ _ => Or.inl rfl) (Or.inr checked)
  · intro other different createdOther
    exact absurd (invariant.creator other caller id createdOther created) different
  · rw [outcome_const]
    exact (created_after rfl caller id).mpr created

/-- The write of the `catch` block. -/
theorem rejected_perform {id : ℕ} {message : String} {time : ℕ} :
    statusContract.Triple caller (fun moment => Created moment caller id)
      (await (.updateOrder id (rejectedPatch message time))) anyOutcome := by
  refine Triple.perform created_stable fun before delivery created invariant allowed => ?_
  refine ⟨respects_update invariant rfl (by decide) allowed ?_ ?_, ?_⟩
  · intro stored found applies
    rw [← mem_rejectable_iff]
    constructor
    · intro timely
      exact timely stored .rejected applies found rfl
    · intro rejectable other written _ foundOther stated
      rw [found] at foundOther
      cases foundOther
      exact rejectable
  · intro other different createdOther
    exact absurd (invariant.creator other caller id createdOther created) different
  · rw [outcome_const]
    trivial

theorem synchronised_perform {id : ℕ} {read status : OrderStatus} {patch : OrderPatch}
    {orders : List ConnectedOrder} (stated : patch.status = some status)
    (noReason : patch.rejectReason = none) (noId : patch.exchangeOrderId = none)
    (checked : canTransitionOrderStatus read status = true) :
    statusContract.Triple caller
      (fun moment => Seen caller id read moment ∧ SeenAll caller orders moment)
      (await (.updateOrder id patch))
      (outcome (fun _ => SeenAll caller orders) fun _ => SeenAll caller orders) := by
  refine Triple.perform ?_ fun before delivery holds invariant allowed => ?_
  · intro moment later holds advances invariant
    exact ⟨seen_stable moment later holds.1 advances invariant,
      seenAll_stable moment later holds.2 advances invariant⟩
  obtain ⟨⟨shown, submitted, row, found, reaches, sent⟩, others⟩ := holds
  have respects : statusContract.Respects ⟨before, caller, .updateOrder id patch, delivery⟩ := by
    refine respects_update invariant stated (not_pendingSubmit_of_canTransition checked) allowed
      ?_ ?_
    · intro stored foundStored applies
      rw [found] at foundStored
      cases foundStored
      rw [← undisturbed_iff_moves submitted checked reaches]
      constructor
      · intro timely
        have late := timely row status applies found stated
        rw [noReason, noId] at late
        rcases late with impossible | undisturbed
        · cases impossible
        · exact undisturbed read shown
      · intro undisturbed other written _ foundOther statedOther
        rw [found] at foundOther
        rw [stated] at statedOther
        cases foundOther
        cases statedOther
        rw [noReason]
        refine Or.inr fun earlier shownEarlier => ?_
        rw [shown] at shownEarlier
        cases shownEarlier
        exact undisturbed
    · intro other _ _ stored foundStored
      rw [found] at foundStored
      cases foundStored
      exact Option.isSome_iff_ne_none.mp sent
  refine ⟨respects, ?_⟩
  rw [outcome_const]
  intro order member isSome
  exact (others order member isSome).progress (progress_of_respects respects)
    (readStatus_after rfl caller)

/-! ### The writers -/

theorem quiet_of_preparing (op : Op) (preparing : Preparing op) : Quiet op := by
  cases op <;> trivial

theorem onlyQuiet_prepareOrder (input : CreateOrderInput) : (prepareOrder input).Only Quiet :=
  (only_prepareOrder input).mono quiet_of_preparing

theorem onlyQuiet_adapterPlaceOrder (input : PlaceOrderInput) :
    (adapterPlaceOrder input).Only Quiet := by
  unfold adapterPlaceOrder
  split
  · trivial
  · exact only_perform trivial

/-- The status check passes on the listed status, which the table allows. -/
theorem requireTransition_triple {source : OrderStatus} {target : RemoteStatus}
    {pre : Moment oms → Prop} :
    statusContract.Triple caller pre (requireTransition source target)
      (outcome (fun status moment => canTransitionOrderStatus source status = true ∧ pre moment)
        fun _ => pre) := by
  unfold requireTransition
  split
  · split
    · exact Triple.done fun _ holds => ⟨‹_›, holds⟩
    · exact Triple.failed fun _ holds => holds
  · exact Triple.failed fun _ holds => holds

theorem submitOrder_triple (input : CreateOrderInput) (connection : ExchangeConnection)
    (quantity : ℚ) (clientOrderId : String) (id : ℕ) :
    statusContract.Triple caller (Pending caller id)
      (submitOrder input connection quantity clientOrderId id)
      (outcome (fun _ moment => Created moment caller id)
        fun _ moment => Created moment caller id) := by
  have quietly : ∀ {Value : Type} {program : Call Value}, program.Only Quiet →
      statusContract.Triple caller (Pending caller id) program
        (outcome (fun _ => Pending caller id) fun _ moment => Created moment caller id) :=
    fun quiet => (quiet_program quiet pending_stable pending_framed).throwing
      fun _ _ pending => pending.1
  refine Triple.bind (quietly (only_perform trivial)) fun apiKey => ?_
  refine Triple.bind (quietly (only_perform trivial)) fun apiSecret => ?_
  refine Triple.bind (quietly (onlyQuiet_adapterPlaceOrder _)) fun remoteOrder => ?_
  refine Triple.bind (requireTransition_triple.throwing fun _ _ pending => pending.1)
    fun incomingStatus => Triple.given fun checked => ?_
  refine Triple.bind (quietly (only_perform trivial)) fun time => ?_
  refine Triple.bind (submitted_perform checked) fun updated => ?_
  refine Triple.bind (quiet_perform trivial created_stable created_framed) fun _ => ?_
  exact Triple.done fun _ holds => holds

theorem rejectOrder_triple (input : CreateOrderInput) (id : ℕ) (message : String) :
    statusContract.Triple caller (fun moment => Created moment caller id)
      (rejectOrder input id message) anyOutcome := by
  have quietly : ∀ {Value : Type} {program : Call Value}, program.Only Quiet →
      statusContract.Triple caller (fun moment => Created moment caller id) program
        (outcome (fun _ moment => Created moment caller id) fun _ _ => True) :=
    fun quiet => (quiet_program quiet created_stable created_framed).throwing fun _ _ _ => trivial
  refine Triple.bind (quietly (only_perform trivial)) fun time => ?_
  refine Triple.bind rejected_perform fun _ => ?_
  refine Triple.bind (quiet_perform trivial true_stable true_framed) fun _ => ?_
  exact Triple.failed fun _ _ => trivial

theorem placeOrder_triple (input : CreateOrderInput) :
    statusContract.Triple caller (fun _ => True) (placeOrder input) anyOutcome := by
  have quietly : ∀ {Value : Type} {program : Call Value}, program.Only Quiet →
      statusContract.Triple caller (fun _ => True) program anyOutcome :=
    fun quiet => quiet_program quiet true_stable true_framed
  refine Triple.bind (quietly (onlyQuiet_prepareOrder input)) fun prepared => ?_
  refine Triple.bind (quietly (only_perform trivial)) fun clientOrderId => ?_
  refine Triple.bind (create_perform rfl rfl) fun order => ?_
  refine Triple.recover ?_ fun message => rejectOrder_triple input order.id message
  exact (submitOrder_triple input _ _ clientOrderId order.id).weaken (fun _ holds => holds)
    fun result _ post => by
      cases result with
      | ok value => trivial
      | error failure => exact post

theorem syncOrderStatus_triple (userId : String) (orderId : ℕ) :
    statusContract.Triple caller (fun _ => True) (syncOrderStatus userId orderId) anyOutcome := by
  refine Triple.bind findOrder_perform fun found => ?_
  refine Triple.bind (Triple.orThrow (fun _ _ _ => trivial) fun order isFound moment read =>
    read order isFound) fun order => ?_
  refine Triple.bind (Triple.orThrow (fun _ _ _ => trivial)
    fun exchangeOrderId isSome moment read => read (Option.isSome_of_eq_some isSome))
    fun exchangeOrderId => ?_
  have quietly : ∀ {Value : Type} {program : Call Value}, program.Only Quiet →
      statusContract.Triple caller (Seen caller order.id order.row.status) program
        (outcome (fun _ => Seen caller order.id order.row.status) fun _ _ => True) :=
    fun quiet => (quiet_program quiet seen_stable seen_framed).throwing fun _ _ _ => trivial
  refine Triple.bind (quietly (only_perform trivial)) fun _ => ?_
  refine Triple.bind (quietly (only_perform trivial)) fun _ => ?_
  refine Triple.bind (quietly (only_perform trivial)) fun remote => ?_
  refine Triple.bind (requireTransition_triple.throwing fun _ _ _ => trivial)
    fun status => Triple.given fun checked => ?_
  refine Triple.bind (quietly (only_perform trivial)) fun time => ?_
  have noOthers : ∀ moment, Seen caller order.id order.row.status moment →
      Seen caller order.id order.row.status moment ∧ SeenAll caller [] moment :=
    fun moment seen => ⟨seen, fun _ member => by cases member⟩
  refine Triple.bind (((synchronised_perform rfl rfl rfl checked).weaken noOthers
    fun _ _ post => post).throwing fun _ _ _ => trivial) fun updated => ?_
  have logged : statusContract.Triple caller (SeenAll caller []) (await (.createExecutionEvent
      { userId := userId, orderId := order.id, eventType := .orderUpdated,
        payload := .remote remote })) (outcome (fun _ => SeenAll caller []) fun _ _ => True) :=
    Triple.throwing (quiet_perform trivial seenAll_stable seenAll_framed) fun _ _ _ => trivial
  exact Triple.bind logged fun _ => Triple.done fun _ _ => trivial

theorem reconcileOrder_triple {orders : List ConnectedOrder} {order : ConnectedOrder}
    (member : order ∈ orders) {exchangeOrderId : String}
    (sent : order.row.exchangeOrderId = some exchangeOrderId) :
    statusContract.Triple caller (SeenAll caller orders) (reconcileOrder order exchangeOrderId)
      (outcome (fun _ => SeenAll caller orders) fun _ => SeenAll caller orders) := by
  have quietly : ∀ {Value : Type} {program : Call Value}, program.Only Quiet →
      statusContract.Triple caller (SeenAll caller orders) program
        (outcome (fun _ => SeenAll caller orders) fun _ => SeenAll caller orders) :=
    fun quiet => quiet_program quiet seenAll_stable seenAll_framed
  refine Triple.bind (quietly (only_perform trivial)) fun _ => ?_
  refine Triple.bind (quietly (only_perform trivial)) fun _ => ?_
  refine Triple.bind (quietly (only_perform trivial)) fun remote => ?_
  split
  · exact Triple.done fun _ seen => seen
  · split
    next nextStatus _ checked =>
      refine Triple.bind (quietly (only_perform trivial)) fun time => ?_
      refine Triple.bind ?_ fun _ => Triple.done fun _ seen => seen
      exact (synchronised_perform rfl rfl rfl checked).weaken
        (fun _ seen => ⟨seen order member (Option.isSome_of_eq_some sent), seen⟩)
        fun _ _ post => post
    · exact Triple.done fun _ seen => seen

theorem reconcileOpenOrders_triple :
    statusContract.Triple caller (fun _ => True) reconcileOpenOrders anyOutcome := by
  refine Triple.bind findOpenOrders_perform fun openOrders => ?_
  have each : ∀ order ∈ openOrders, statusContract.Triple caller (SeenAll caller openOrders)
      (reconcileNext order)
      (outcome (fun _ => SeenAll caller openOrders) fun _ => SeenAll caller openOrders) := by
    intro order member
    unfold reconcileNext
    split
    · exact Triple.done fun _ seen => seen
    next exchangeOrderId sent =>
      exact Triple.recover (reconcileOrder_triple member sent) fun _ =>
        Triple.done fun _ seen => seen
  refine (Triple.forEach each).weaken (fun _ seen => seen) fun result _ _ => ?_
  cases result <;> trivial

/-! ### Runs -/

/-- A call of one of the three writers. -/
inductive Request where
  | place (input : CreateOrderInput)
  | sync (userId : String) (orderId : ℕ)
  | reconcile

/-- The call, whatever it answers. -/
def Request.call : Request → Call Unit
  | place input => do let _ ← placeOrder input; return ()
  | sync userId orderId => do let _ ← syncOrderStatus userId orderId; return ()
  | reconcile => reconcileOpenOrders

theorem Request.triple (request : Request) :
    statusContract.Triple caller (fun _ => True) request.call anyOutcome := by
  cases request with
  | place input => exact Triple.bind (placeOrder_triple input) fun _ => Triple.done fun _ _ => trivial
  | sync userId orderId =>
    exact Triple.bind (syncOrderStatus_triple userId orderId) fun _ => Triple.done fun _ _ => trivial
  | reconcile => exact reconcileOpenOrders_triple

/-- A desk whose orders the writers have yet to create. -/
def Desk.opened (desk : Desk) : Desk := { desk with orders := [] }

/-- The system in which these calls have just been made. -/
def bookSystem (desk : Desk) (requests : List Request) : System oms Unit where
  moment := ⟨desk.opened, []⟩
  calls := requests.map Request.call

theorem bookSystem_holds (desk : Desk) (requests : List Request) :
    statusContract.Holds (fun _ _ _ => True) (bookSystem desk requests) where
  invariant :=
    { creator := fun _ _ _ created => by
        obtain ⟨event, member, _⟩ := created
        cases member
      stored := fun _ _ created => by
        obtain ⟨event, member, _⟩ := created
        cases member
      sent := fun _ _ found => by cases found }
  calls := by
    intro caller program found
    rw [bookSystem, List.getElem?_map] at found
    obtain ⟨request, _, isCall⟩ := Option.map_eq_some_iff.mp found
    rw [← isCall]
    exact (request.triple _ trivial).mono fun _ _ _ => trivial

/-- In a run of the three writers, every change of a stored status follows the transition table
exactly when every status write comes in time. -/
theorem status_follows_table_iff (desk : Desk) (requests : List Request)
    (turns : List (Turn oms)) :
    (∀ step ∈ (bookSystem desk requests).steps turns, StatusLegal step) ↔
      ∀ step ∈ (bookSystem desk requests).steps turns, TimelyWrite step := by
  have run := sound (fun _ _ => true_stable) (bookSystem_holds desk requests) turns
  constructor
  · intro legal step member
    have respects := (run fun step member => Or.inr (legal step member)).2
    exact (respects step member).promised.mpr (legal step member)
  · intro timely step member
    have respects := (run fun step member => Or.inl (timely step member)).2
    exact (respects step member).promised.mp (timely step member)

/-! ### A late rejection -/

/-- The exchange fills the order at once, and the insert of the execution event is refused. -/
def unloggedFill : Outlook where
  placed := .accepted ⟨OrderStatus.filled, "7", none, some 1, some 50000⟩
  delivery
    | .createExecutionEvent _ => .refused "database unavailable"
    | _ => .answered

def unloggedRun : List (Step oms) :=
  (bookSystem aliceDesk [.place aliceBuy]).steps (List.replicate 14 (unloggedFill.turn 0))

/-- The step in which the `catch` block writes. -/
def lateRejection : Step oms := unloggedRun.get ⟨12, by decide +kernel⟩

/-- A filled order becomes rejected when its execution event cannot be stored. -/
theorem not_status_follows_table :
    ¬ ∀ (desk : Desk) (requests : List Request) (turns : List (Turn oms)),
      ∀ step ∈ (bookSystem desk requests).steps turns, StatusLegal step := by
  intro claimed
  have legal : StatusLegal lateRejection :=
    claimed aliceDesk [.place aliceBuy] _ lateRejection (List.get_mem unloggedRun _)
  have moved : ∀ before ∈ lateRejection.before.state.orders[0]?,
      ∀ after ∈ lateRejection.after.state.orders[0]?, Moves before.status after.status :=
    fun before found after foundAfter => legal 0 before after found foundAfter
  revert moved
  decide +kernel

end GdslExchange.Orders
