/-
This file settles when the stored status of an order moves only along the
transition table.

Three writers share the rows. `placeOrder` owns the row it created until it has
stored the exchange's id in it; the synchronisers touch only rows that have that
id. Each consults the table by reading the row, awaiting the exchange and then
writing, and the `catch` block of `placeOrder` writes without consulting it. A
write is therefore legal exactly when the row was not moved on in between
(`TimelyWrite`), and this is what the contract below promises of every step.
-/

import GdslExchange.Async.Contract
import GdslExchange.Orders.Service

namespace GdslExchange.Orders

open Async

/-! ### What a caller has learnt -/

def createdRow : Event oms → Option ℕ
  | ⟨_, .createOrder _, _, .ok stored⟩ => some stored.id
  | _ => none

/-- The status of a row as an event showed it to its caller. -/
def shownStatus (id : ℕ) : Event oms → Option OrderStatus
  | ⟨_, .findOrder _ _, _, .ok (some order)⟩ =>
    if order.id = id then some order.row.status else none
  | ⟨_, .findOpenOrders, _, .ok orders⟩ =>
    (orders.find? fun order => order.id = id).map fun order => order.row.status
  | _ => none

def Created (moment : Moment oms) (caller id : ℕ) : Prop :=
  ∃ event ∈ moment.own caller, createdRow event = some id

def readStatus (moment : Moment oms) (caller id : ℕ) : Option OrderStatus :=
  (moment.own caller).findSome? (shownStatus id)

/-! ### The property and the condition -/

/-- No stored status changes except along the transition table. -/
def StatusLegal (step : Step oms) : Prop :=
  ∀ (id : ℕ) (before after : Order), step.before.state.orders[id]? = some before →
    step.after.state.orders[id]? = some after → Moves before.status after.status

/-- A status read earlier still stands for the stored one when another is written: the row has
not moved since, has already moved there, or has only gone from `NEW` to `PARTIALLY_FILLED`,
which leaves every status but `REJECTED` open. -/
def Undisturbed (read stored written : OrderStatus) : Prop :=
  stored = read ∨ stored = written ∨
    (read = .new ∧ stored = .partiallyFilled ∧ written ≠ .rejected)

instance (read stored written : OrderStatus) : Decidable (Undisturbed read stored written) :=
  inferInstanceAs (Decidable (_ ∨ _))

/-- A status write that comes in time. The `catch` block of `placeOrder` must find the row not
yet past `NEW`; a synchroniser must find it undisturbed since it read it. -/
def TimelyWrite : Step oms → Prop
  | ⟨before, caller, .updateOrder id patch, delivery⟩ =>
    ∀ (stored : Order) written, delivery.Applies → before.state.orders[id]? = some stored →
      patch.status = some written →
        if patch.rejectReason.isSome then
          stored.status ∈ [OrderStatus.pendingSubmit, .new, .rejected]
        else
          patch.exchangeOrderId.isSome ∨ ∀ read, readStatus before caller id = some read →
            Undisturbed read stored.status written
  | _ => True

/-! ### The contract -/

/-- Rows stay, keep the exchange id they have, and their statuses move along the table. -/
def Progress (before after : Moment oms) : Prop :=
  ∀ (id : ℕ) (row : Order), before.state.orders[id]? = some row →
    ∃ later : Order, after.state.orders[id]? = some later ∧ Reaches row.status later.status ∧
      (row.exchangeOrderId.isSome → later.exchangeOrderId.isSome)

/-- What a suspended caller relies on: others leave alone what it has learnt, and the rows it
created until it has stored an exchange id in them. -/
structure Advances (caller : ℕ) (before after : Moment oms) : Prop where
  own : after.own caller = before.own caller
  progress : Progress before after
  owned : ∀ id (row : Order), Created before caller id → before.state.orders[id]? = some row →
    row.exchangeOrderId = none → after.state.orders[id]? = some row

/-- A row has one creator, and a row the exchange knows is past `PENDING_SUBMIT`. -/
structure BookInvariant (moment : Moment oms) : Prop where
  creator : ∀ first second id, Created moment first id → Created moment second id →
    first = second
  stored : ∀ caller id, Created moment caller id → id < moment.state.orders.length
  sent : ∀ (id : ℕ) (row : Order), moment.state.orders[id]? = some row → row.exchangeOrderId.isSome →
    row.status ≠ .pendingSubmit

theorem Progress.refl (moment : Moment oms) : Progress moment moment :=
  fun _ row found => ⟨row, found, Reaches.refl _, id⟩

theorem Reaches.trans {first second third : OrderStatus} (reaches : Reaches first second)
    (further : Reaches second third) : Reaches first third := by
  revert first second third
  decide

theorem Progress.trans {first second third : Moment oms} (head : Progress first second)
    (tail : Progress second third) : Progress first third := by
  intro id row found
  obtain ⟨middle, foundMiddle, reaches, keeps⟩ := head id row found
  obtain ⟨last, foundLast, further, keepsOn⟩ := tail id middle foundMiddle
  exact ⟨last, foundLast, reaches.trans further, fun isSome => keepsOn (keeps isSome)⟩

theorem created_congr {before after : Moment oms} {caller : ℕ}
    (same : after.own caller = before.own caller) (id : ℕ) :
    Created after caller id ↔ Created before caller id := by
  unfold Created
  rw [same]

/-- The contract of the three writers. A step is allowed if it is timely or legal; it is
promised to be both or neither. -/
def statusContract : Contract oms where
  allowed step := TimelyWrite step ∨ StatusLegal step
  promised step := TimelyWrite step ↔ StatusLegal step
  invariant := BookInvariant
  rely := Advances
  rely_refl _ moment := ⟨rfl, Progress.refl moment, fun _ _ _ found _ => found⟩
  rely_trans _ _ _ _ head tail :=
    { own := tail.own.trans head.own
      progress := head.progress.trans tail.progress
      owned := fun id row created found absent =>
        tail.owned id row ((created_congr head.own id).mpr created)
          (head.owned id row created found absent) absent }

/-! ### Steps -/

section Steps

variable {step : Step oms}

theorem created_after (noRow : createdRow step.event = none) (caller id : ℕ) :
    Created step.after caller id ↔ Created step.before caller id := by
  by_cases same : caller = step.caller
  · subst same
    unfold Created
    rw [Step.own_after_self]
    simp only [List.mem_cons, exists_eq_or_imp, noRow, reduceCtorEq, false_or]
  · exact created_congr (Step.own_after_other step same) id

theorem readStatus_after {id : ℕ} (silent : shownStatus id step.event = none) (caller : ℕ) :
    readStatus step.after caller id = readStatus step.before caller id := by
  unfold readStatus
  by_cases same : caller = step.caller
  · subst same
    rw [Step.own_after_self, List.findSome?_cons, silent]
  · rw [Step.own_after_other step same]

theorem statusLegal_of_orders_eq
    (same : step.after.state.orders = step.before.state.orders) : StatusLegal step := by
  intro id before after found foundAfter
  rw [same, found] at foundAfter
  cases foundAfter
  exact Or.inl rfl

theorem progress_of_orders_eq (same : step.after.state.orders = step.before.state.orders) :
    Progress step.before step.after := by
  intro id row found
  exact ⟨row, by rw [same]; exact found, Reaches.refl _, fun isSome => isSome⟩

theorem respects_of_orders_eq (holds : BookInvariant step.before)
    (same : step.after.state.orders = step.before.state.orders)
    (noRow : createdRow step.event = none) (timely : TimelyWrite step) :
    statusContract.Respects step where
  promised := iff_of_true timely (statusLegal_of_orders_eq same)
  invariant :=
    { creator := fun first second id createdFirst createdSecond =>
        holds.creator first second id ((created_after noRow _ _).mp createdFirst)
          ((created_after noRow _ _).mp createdSecond)
      stored := fun caller id created => by
        rw [same]
        exact holds.stored caller id ((created_after noRow _ _).mp created)
      sent := fun id row found => holds.sent id row (by rw [← same]; exact found) }
  others := fun other different =>
    { own := Step.own_after_other step different
      progress := progress_of_orders_eq same
      owned := fun id row _ found _ => by rw [same]; exact found }

end Steps

theorem statusLegal_update_iff {before : Moment oms} {caller id : ℕ} {patch : OrderPatch}
    {delivery : Delivery} {row : Order} {written : OrderStatus} (applies : delivery.Applies)
    (found : before.state.orders[id]? = some row) (stated : patch.status = some written) :
    StatusLegal ⟨before, caller, .updateOrder id patch, delivery⟩ ↔
      Moves row.status written := by
  have bound : id < before.state.orders.length := (List.getElem?_eq_some_iff.mp found).1
  have orders : (⟨before, caller, .updateOrder id patch, delivery⟩ : Step oms).after.state.orders =
      before.state.orders.set id (patch.apply row) :=
    orders_perform_update applies found
  have patched : (patch.apply row).status = written := by
    simp only [OrderPatch.apply, stated, Option.getD_some]
  constructor
  · intro legal
    have moved := legal id row (patch.apply row) found
      (by rw [orders, List.getElem?_set_self bound])
    rwa [patched] at moved
  · intro moves other old new foundOld foundNew
    rw [orders] at foundNew
    by_cases same : other = id
    · subst same
      rw [List.getElem?_set_self bound] at foundNew
      rw [found] at foundOld
      cases foundOld
      cases foundNew
      rwa [patched]
    · rw [List.getElem?_set_ne (Ne.symm same)] at foundNew
      rw [foundOld] at foundNew
      cases foundNew
      exact Or.inl rfl

/-- An update of one row respects the contract if being timely makes it legal and no other
caller still owns the row. -/
theorem respects_update {before : Moment oms} {caller id : ℕ} {patch : OrderPatch}
    {delivery : Delivery} {written : OrderStatus} (holds : BookInvariant before)
    (stated : patch.status = some written) (submitted : written ≠ .pendingSubmit)
    (allowed : statusContract.allowed ⟨before, caller, .updateOrder id patch, delivery⟩)
    (agrees : ∀ row : Order, before.state.orders[id]? = some row → delivery.Applies →
      (TimelyWrite ⟨before, caller, .updateOrder id patch, delivery⟩ ↔
        Moves row.status written))
    (unowned : ∀ other, other ≠ caller → Created before other id →
      ∀ row : Order, before.state.orders[id]? = some row → row.exchangeOrderId ≠ none) :
    statusContract.Respects ⟨before, caller, .updateOrder id patch, delivery⟩ := by
  by_cases idle : ¬ delivery.Applies ∨ before.state.orders[id]? = none
  · refine respects_of_orders_eq holds (orders_perform_update_idle idle) rfl ?_
    intro stored written applies found
    rcases idle with refused | missing
    · exact absurd applies refused
    · rw [missing] at found
      cases found
  obtain ⟨applies, present⟩ := not_or.mp idle
  replace applies := not_not.mp applies
  obtain ⟨row, found⟩ := Option.ne_none_iff_exists'.mp present
  have bound : id < before.state.orders.length := (List.getElem?_eq_some_iff.mp found).1
  have orders : (⟨before, caller, .updateOrder id patch, delivery⟩ : Step oms).after.state.orders =
      before.state.orders.set id (patch.apply row) :=
    orders_perform_update applies found
  have legalIff := @statusLegal_update_iff before caller id patch delivery row written applies
    found stated
  have moves : Moves row.status written := by
    rcases allowed with timely | legal
    · exact (agrees row found applies).mp timely
    · exact legalIff.mp legal
  have patched : (patch.apply row).status = written := by
    simp only [OrderPatch.apply, stated, Option.getD_some]
  have keeps : row.exchangeOrderId.isSome → (patch.apply row).exchangeOrderId.isSome := by
    simp only [OrderPatch.apply]
    cases patch.exchangeOrderId <;> simp
  have noRow : createdRow (⟨before, caller, .updateOrder id patch, delivery⟩ : Step oms).event =
    none := rfl
  refine ⟨(agrees row found applies).trans legalIff.symm, ⟨?_, ?_, ?_⟩, ?_⟩
  · intro first second other createdFirst createdSecond
    exact holds.creator first second other ((created_after noRow _ _).mp createdFirst)
      ((created_after noRow _ _).mp createdSecond)
  · intro creator other created
    rw [orders, List.length_set]
    exact holds.stored creator other ((created_after noRow _ _).mp created)
  · intro other stored foundStored isSome
    rw [orders] at foundStored
    by_cases same : other = id
    · subst same
      rw [List.getElem?_set_self bound] at foundStored
      cases foundStored
      rwa [patched]
    · rw [List.getElem?_set_ne (Ne.symm same)] at foundStored
      exact holds.sent other stored foundStored isSome
  · intro other different
    refine ⟨Step.own_after_other _ different, ?_, ?_⟩
    · intro target stored foundStored
      rw [orders]
      by_cases same : target = id
      · subst same
        rw [found] at foundStored
        cases foundStored
        refine ⟨patch.apply row, List.getElem?_set_self bound, ?_, keeps⟩
        rw [patched]
        exact Or.inl moves
      · exact ⟨stored, by rw [List.getElem?_set_ne (Ne.symm same)]; exact foundStored,
          Reaches.refl _, fun isSome => isSome⟩
    · intro target stored created foundStored absent
      rw [orders]
      by_cases same : target = id
      · subst same
        exact absurd absent (unowned other different created stored foundStored)
      · rw [List.getElem?_set_ne (Ne.symm same)]
        exact foundStored

end GdslExchange.Orders
