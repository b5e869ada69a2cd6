/-
This file settles when a limit order is executed at most once: in every run in which a
swap starts and lands while its order is OPEN, no two swaps of one order are between
their landing and their entry, no swap fails after it has landed, no order is cancelled
between landing and entry, and no OPEN order is beyond the fortieth.

The watcher sees to none of this. It works on a copy of the OPEN orders, marks nothing
before the swap, and its interval fires whether or not the last pass has ended.
-/

import GdslExchange.JupiterLimit.Rows

namespace GdslExchange.JupiterLimit

open Async
open Jupiter (SwapRequest)

/-! ### What a run should keep -/

/-- The order that an event has cancelled. -/
def cancelOf : Event venue → Option ℕ
  | ⟨_, .cancelJupiterLimitOrder _ orderId, _, .ok true⟩ => some orderId
  | _ => none

/-- The orders that were cancelled. -/
def cancelled (moment : Moment venue) : List ℕ := moment.log.filterMap cancelOf

/-- What is FILLED or CANCELLED stays what it is, and no OPEN order is lost. -/
structure Steady (before after : Store) : Prop where
  settled : ∀ userId, ∀ row ∈ before.list userId, row.status ≠ .open →
    ∀ later ∈ after.list userId, later.id = row.id → later.status = row.status
  kept : ∀ userId, ∀ row ∈ before.list userId, row.status = .open →
    ∃ later ∈ after.list userId, later.id = row.id

/-- A step starts no swap of an order that was cancelled, and is steady. -/
structure StepSound (step : Step venue) : Prop where
  started : ∀ order request, step.op = .startSwap order request →
    order.id ∉ cancelled step.before
  steady : Steady step.before.state step.after.state

/-! ### Orderly steps -/

def Store.isOpen (store : Store) (userId : String) (id : ℕ) : Bool :=
  (store.list userId).any fun row => row.id = id ∧ row.status = .open

/-- Nobody else has a landed swap of the order to enter. -/
def Unlanded (before : Moment venue) (caller : ℕ) (userId : String) (id : ℕ) : Prop :=
  lane.Others before caller fun phase => phase ≠ .landed userId id

/-- What an operation finds. -/
def Suits (before : Moment venue) (caller : ℕ) : (op : Op) → Fate op → Prop
  | .createJupiterLimitOrder userId _, _ =>
    ((before.state.list userId).drop 39).all (fun row => row.status ≠ .open) = true
  | .cancelJupiterLimitOrder userId orderId, _ =>
    before.state.isOpen userId orderId = true → Unlanded before caller userId orderId
  | .startSwap order _, _ => before.state.isOpen order.userId order.id = true
  | .finishSwap order, .landed _ =>
    before.state.isOpen order.userId order.id = true ∧
      Unlanded before caller order.userId order.id
  | .finishSwap _, .landedThenFailed _ => False
  | _, _ => True

/-- A step that meets the condition. -/
def Orderly (step : Step venue) : Prop := Suits step.before step.caller step.op step.fate

/-! ### The invariant -/

/-- No row of the order is OPEN, and none will be. -/
structure Over (store : Store) (id : ℕ) : Prop where
  used : id < store.owners.length
  closed : ∀ userId, ∀ row ∈ store.list userId, row.id = id → row.status ≠ .open

/-- Every order has one owner and one row; a swap that is under way is of its owner's order, and
one caller's once it has landed; a swap has landed once, and nothing is OPEN that was executed
and entered or that was cancelled. -/
structure Book (store : Store) (phases : ℕ → Phase) (cancelled : List ℕ) : Prop where
  owned : ∀ userId, ∀ row ∈ store.list userId, store.owners[row.id]? = some userId
  distinct : ∀ userId, Distinct (store.list userId)
  flying : ∀ caller userId id, (phases caller).order = some (userId, id) →
    store.owners[id]? = some userId
  single : ∀ first second userId id, phases first = .landed userId id →
    phases second = .landed userId id → first = second
  chained : ∀ id ∈ store.chain,
    (∃ caller userId, phases caller = .landed userId id) ∨ Over store id
  once : store.chain.Nodup
  cancelled : ∀ id ∈ cancelled, Over store id

/-- A landed swap that is to be entered finds its order OPEN. -/
def Awaited (store : Store) (phases : ℕ → Phase) : Prop :=
  ∀ caller userId id, phases caller = .landed userId id →
    ∀ row ∈ store.list userId, row.id = id → row.status = .open

variable {store : Store} {phases : ℕ → Phase} {gone : List ℕ}

theorem Book.start : Book .empty (fun _ => .free) [] where
  owned _ _ member := by cases member
  distinct _ := List.nodup_nil
  flying _ _ _ isOrder := by cases isOrder
  single _ _ _ _ isLanded := by cases isLanded
  chained _ member := by cases member
  once := List.nodup_nil
  cancelled _ member := by cases member

variable {owners : List String} {id : ℕ}

theorem lt_of_owner {userId : String} (owner : owners[id]? = some userId) : id < owners.length :=
  (List.getElem?_eq_some_iff.mp owner).1

theorem Book.cancel (book : Book store phases gone) (isOver : Over store id) :
    Book store phases (id :: gone) :=
  { book with
    cancelled := fun other member => (List.mem_cons.mp member).elim (fun same => same ▸ isOver)
      (book.cancelled other) }

/-! ### Lists that change -/

/-- New owners are known, and the list of a user is replaced by one that has no other order
that is not new. -/
structure Replaced (store : Store) (owners : List String) (userId : String)
    (rows : List JupiterLimitOrder) : Prop where
  extended : store.owners <+: owners
  distinct : Distinct rows
  known : ∀ row ∈ rows, owners[row.id]? = some userId
  closed : ∀ row ∈ rows, row.status = .open → row.id < store.owners.length →
    ∃ old ∈ store.list userId, old.id = row.id ∧ old.status = .open

def Store.replace (store : Store) (owners : List String) (userId : String)
    (rows : List JupiterLimitOrder) : Store :=
  { store with owners := owners }.save userId rows

theorem list_replace_self (owners : List String) (userId : String)
    (rows : List JupiterLimitOrder) : (store.replace owners userId rows).list userId = rows :=
  Function.update_self _ _ _

theorem list_replace_other {userId other : String} (different : other ≠ userId)
    (rows : List JupiterLimitOrder) :
    (store.replace owners userId rows).list other = store.list other :=
  Function.update_of_ne different _ _

variable {rows : List JupiterLimitOrder}

theorem Replaced.owner {userId : String} (replaced : Replaced store owners userId rows)
    {owner : String} (isOwner : store.owners[id]? = some owner) : owners[id]? = some owner := by
  obtain ⟨added, rfl⟩ := replaced.extended
  exact (List.getElem?_append_left (lt_of_owner isOwner)).trans isOwner

theorem Over.replace {userId : String} (isOver : Over store id)
    (replaced : Replaced store owners userId rows) :
    Over (store.replace owners userId rows) id := by
  refine ⟨isOver.used.trans_le replaced.extended.length_le, fun other row member isId isOpen => ?_⟩
  by_cases same : other = userId
  · subst same
    rw [list_replace_self] at member
    obtain ⟨old, isOld, sameId, oldOpen⟩ :=
      replaced.closed row member isOpen (isId ▸ isOver.used)
    exact isOver.closed other old isOld (sameId.trans isId) oldOpen
  · rw [list_replace_other same] at member
    exact isOver.closed other row member isId isOpen

theorem Book.replace {userId : String} (book : Book store phases gone)
    (replaced : Replaced store owners userId rows) :
    Book (store.replace owners userId rows) phases gone where
  owned other row member := by
    by_cases same : other = userId
    · subst same
      rw [list_replace_self] at member
      exact replaced.known row member
    · rw [list_replace_other same] at member
      exact replaced.owner (book.owned other row member)
  distinct other := by
    by_cases same : other = userId
    · rw [same, list_replace_self]
      exact replaced.distinct
    · rw [list_replace_other same]
      exact book.distinct other
  flying caller other id isOrder := replaced.owner (book.flying caller other id isOrder)
  single := book.single
  chained id member := (book.chained id member).imp_right fun isOver => isOver.replace replaced
  once := book.once
  cancelled id member := (book.cancelled id member).replace replaced

theorem Awaited.replace {userId : String} (awaited : Awaited store phases)
    (found : ∀ caller id, phases caller = .landed userId id → ∀ row ∈ rows, row.id = id →
      row.status = .open) : Awaited (store.replace owners userId rows) phases := by
  intro caller other id isLanded row member
  by_cases same : other = userId
  · subst same
    rw [list_replace_self] at member
    exact found caller id isLanded row member
  · rw [list_replace_other same] at member
    exact awaited caller other id isLanded row member

theorem Book.steady_replace (book : Book store phases gone) {userId : String}
    (settled : ∀ row ∈ store.list userId, row.status ≠ .open → ∀ later ∈ rows,
      later.id = row.id → later.status = row.status)
    (kept : ∀ row ∈ store.list userId, row.status = .open → ∃ later ∈ rows, later.id = row.id) :
    Steady store (store.replace owners userId rows) := by
  constructor
  · intro other row member isClosed later isLater sameId
    by_cases same : other = userId
    · subst same
      rw [list_replace_self] at isLater
      exact settled row member isClosed later isLater sameId
    · rw [list_replace_other same] at isLater
      rw [(book.distinct other).eq isLater member sameId]
  · intro other row member isOpen
    by_cases same : other = userId
    · subst same
      rw [list_replace_self]
      exact kept row member isOpen
    · rw [list_replace_other same]
      exact ⟨row, member, rfl⟩

theorem Book.steady_same (book : Book store phases gone) {after : Store}
    (same : after.list = store.list) : Steady store after := by
  constructor
  · intro userId row member _ later isLater sameId
    rw [same] at isLater
    rw [(book.distinct userId).eq isLater member sameId]
  · intro userId row member _
    rw [same]
    exact ⟨row, member, rfl⟩

/-! ### A row that is closed -/

section Closing

variable {userId : String} {before after : List JupiterLimitOrder}
  {row changed : JupiterLimitOrder}

theorem Book.replaced (book : Book store phases gone)
    (isList : store.list userId = before ++ row :: after) (sameId : changed.id = row.id)
    (closed : changed.status ≠ .open) :
    Replaced store store.owners userId (before ++ changed :: after) := by
  have distinct : Distinct (before ++ row :: after) := isList ▸ book.distinct userId
  have known : ∀ other ∈ before ++ row :: after, store.owners[other.id]? = some userId := by
    intro other member
    exact book.owned userId other (isList ▸ member)
  refine ⟨List.prefix_rfl, distinct.of_changed sameId, fun other member => ?_,
    fun other member isOpen _ => ?_⟩
  · rcases mem_changed distinct member with rfl | ⟨isOld, -⟩
    · rw [sameId]
      exact known row (List.mem_append_right _ List.mem_cons_self)
    · exact known other isOld
  · rcases mem_changed distinct member with rfl | ⟨isOld, -⟩
    · exact (closed isOpen).elim
    · exact ⟨other, isList ▸ isOld, rfl, isOpen⟩

theorem Book.over_changed (book : Book store phases gone)
    (isList : store.list userId = before ++ row :: after) (closed : changed.status ≠ .open) :
    Over (store.replace store.owners userId (before ++ changed :: after)) row.id := by
  have owner : store.owners[row.id]? = some userId :=
    book.owned userId row (isList ▸ List.mem_append_right _ List.mem_cons_self)
  refine ⟨lt_of_owner owner, fun other later member isId => ?_⟩
  by_cases same : other = userId
  · subst same
    rw [list_replace_self] at member
    rcases mem_changed (isList ▸ book.distinct other) member with rfl | ⟨-, different⟩
    · exact closed
    · exact (different isId).elim
  · rw [list_replace_other same] at member
    have isOwner := book.owned other later member
    rw [isId, owner] at isOwner
    exact (same (Option.some.inj isOwner).symm).elim

theorem Book.over_absent (book : Book store phases gone) {id : ℕ}
    (owner : store.owners[id]? = some userId) (absent : ∀ row ∈ store.list userId, row.id ≠ id) :
    Over store id := by
  refine ⟨lt_of_owner owner, fun other found member isId => ?_⟩
  have isOwner := book.owned other found member
  rw [isId, owner] at isOwner
  rw [← Option.some.inj isOwner] at member
  exact (absent found member isId).elim

theorem Book.steady_changed (book : Book store phases gone)
    (isList : store.list userId = before ++ row :: after) (sameId : changed.id = row.id)
    (wasOpen : row.status = .open) :
    Steady store (store.replace store.owners userId (before ++ changed :: after)) := by
  have distinct : Distinct (before ++ row :: after) := isList ▸ book.distinct userId
  refine book.steady_replace (fun old member isClosed later isLater same => ?_)
    fun old member _ => ?_
  · rw [isList] at member
    rcases mem_changed distinct isLater with rfl | ⟨isOld, -⟩
    · rw [← distinct.eq (List.mem_append_right _ List.mem_cons_self) member
        (sameId.symm.trans same)] at isClosed
      exact (isClosed wasOpen).elim
    · rw [distinct.eq isOld member same]
  · rw [isList] at member
    exact exists_of_changed sameId member

theorem Awaited.close (awaited : Awaited store phases) (distinct : Distinct (store.list userId))
    (isList : store.list userId = before ++ row :: after) (sameId : changed.id = row.id)
    (unlanded : ∀ caller, phases caller ≠ .landed userId row.id) :
    Awaited (store.replace store.owners userId (before ++ changed :: after)) phases := by
  refine awaited.replace fun caller id isLanded other member isId => ?_
  rcases mem_changed (isList ▸ distinct) member with rfl | ⟨isOld, -⟩
  · rw [← isId, sameId] at isLanded
    exact (unlanded caller isLanded).elim
  · exact awaited caller userId id isLanded other (isList ▸ isOld) isId

end Closing

/-! ### A new order -/

theorem Book.create (book : Book store phases gone) (awaited : Awaited store phases) {userId : String} {order : JupiterLimitOrder}
    (isNew : order.id = store.owners.length)
    (suits : ((store.list userId).drop 39).all (fun row => row.status ≠ .open) = true) :
    Book (store.replace (store.owners ++ [userId]) userId ((order :: store.list userId).take 40))
        phases gone ∧
      Awaited (store.replace (store.owners ++ [userId]) userId
        ((order :: store.list userId).take 40)) phases ∧
      Steady store (store.replace (store.owners ++ [userId]) userId
        ((order :: store.list userId).take 40)) := by
  have older : ∀ row ∈ store.list userId, row.id < store.owners.length := fun row member =>
    lt_of_owner (book.owned userId row member)
  have known : ∀ row ∈ (order :: store.list userId).take 40,
      row = order ∨ row ∈ store.list userId := fun row member =>
    List.mem_cons.mp (List.mem_of_mem_take member)
  have distinct : Distinct (order :: store.list userId) := by
    refine List.nodup_cons.mpr ⟨fun member => ?_, book.distinct userId⟩
    obtain ⟨row, isRow, sameId⟩ := List.mem_map.mp member
    exact absurd (older row isRow) (by rw [sameId, isNew]; exact lt_irrefl _)
  have replaced : Replaced store (store.owners ++ [userId]) userId
      ((order :: store.list userId).take 40) := by
    refine ⟨List.prefix_append _ _,
      distinct.sublist ((List.take_sublist _ _).map _), fun row member => ?_,
      fun row member isOpen isOld => ?_⟩
    · rcases known row member with rfl | isOlder
      · rw [isNew]
        exact List.getElem?_concat_length
      · have isOwner := book.owned userId row isOlder
        exact (List.getElem?_append_left (lt_of_owner isOwner)).trans isOwner
    · rcases known row member with rfl | isOlder
      · rw [isNew] at isOld
        exact (lt_irrefl _ isOld).elim
      · exact ⟨row, isOlder, rfl, isOpen⟩
  refine ⟨book.replace replaced, awaited.replace fun caller id isLanded row member isId => ?_,
    book.steady_replace (fun row member isClosed later isLater sameId => ?_)
      fun row member isOpen => ⟨row, ?_, rfl⟩⟩
  · rcases known row member with rfl | isOlder
    · have isOwner := book.flying caller userId id (by rw [isLanded]; rfl)
      rw [← isId, isNew] at isOwner
      exact absurd (lt_of_owner isOwner) (lt_irrefl _)
    · exact awaited caller userId id isLanded row isOlder isId
  · rcases known later isLater with rfl | isOlder
    · exact absurd (older row member) (by rw [← sameId, isNew]; exact lt_irrefl _)
    · rw [(book.distinct userId).eq isOlder member sameId]
  · rw [List.take_succ_cons]
    refine List.mem_cons_of_mem _ ?_
    rw [← List.take_append_drop 39 (store.list userId)] at member
    refine (List.mem_append.mp member).resolve_right fun isLate => ?_
    exact of_decide_eq_true (List.all_eq_true.mp suits row isLate) isOpen

/-! ### Phases that change -/

section Phases

variable {caller : ℕ} {phase : Phase}

theorem landed_of_update (grounded : ∀ userId id, phase ≠ .landed userId id) {other : ℕ}
    {userId : String} {id : ℕ}
    (isLanded : Function.update phases caller phase other = .landed userId id) :
    phases other = .landed userId id := by
  by_cases same : other = caller
  · rw [same, Function.update_self] at isLanded
    exact (grounded userId id isLanded).elim
  · rwa [Function.update_of_ne same] at isLanded

theorem Awaited.move (awaited : Awaited store phases)
    (grounded : ∀ userId id, phase ≠ .landed userId id) :
    Awaited store (Function.update phases caller phase) :=
  fun other userId id isLanded => awaited other userId id (landed_of_update grounded isLanded)

/-- What orders are under way when one caller moves. -/
theorem Book.flying_update (book : Book store phases gone)
    (flying : ∀ userId id, phase.order = some (userId, id) → store.owners[id]? = some userId)
    (other : ℕ) (userId : String) (id : ℕ)
    (isOrder : (Function.update phases caller phase other).order = some (userId, id)) :
    store.owners[id]? = some userId := by
  by_cases same : other = caller
  · rw [same, Function.update_self] at isOrder
    exact flying userId id isOrder
  · rw [Function.update_of_ne same] at isOrder
    exact book.flying other userId id isOrder

/-- A caller goes where it has no landed swap to enter; what it had is over. -/
theorem Book.move (book : Book store phases gone)
    (entered : ∀ userId id, phases caller = .landed userId id → Over store id)
    (flying : ∀ userId id, phase.order = some (userId, id) → store.owners[id]? = some userId)
    (grounded : ∀ userId id, phase ≠ .landed userId id) :
    Book store (Function.update phases caller phase) gone := by
  refine ⟨book.owned, book.distinct, book.flying_update flying,
    fun first second userId id isFirst isSecond => book.single first second userId id
      (landed_of_update grounded isFirst) (landed_of_update grounded isSecond),
    fun id member => ?_, book.once, book.cancelled⟩
  rcases book.chained id member with ⟨other, userId, isLanded⟩ | isOver
  · by_cases same : other = caller
    · exact Or.inr (entered userId id (same ▸ isLanded))
    · refine Or.inl ⟨other, userId, ?_⟩
      rw [Function.update_of_ne same]
      exact isLanded
  · exact Or.inr isOver

theorem free_grounded (userId : String) (id : ℕ) : Phase.free ≠ .landed userId id := nofun

theorem Book.release (book : Book store phases gone)
    (entered : ∀ userId id, phases caller = .landed userId id → Over store id) :
    Book store (Function.update phases caller .free) gone :=
  book.move entered nofun free_grounded

theorem Book.land (book : Book store phases gone) {order : JupiterLimitOrder}
    (isStarted : phases caller = .started order.userId order.id)
    (isOpen : store.isOpen order.userId order.id = true)
    (others : ∀ other, other ≠ caller → phases other ≠ .landed order.userId order.id) :
    Book (store.land order) (Function.update phases caller (.landed order.userId order.id))
      gone := by
  obtain ⟨row, member, isRow⟩ := List.any_eq_true.mp isOpen
  obtain ⟨isId, statusOpen⟩ := of_decide_eq_true isRow
  have owner : store.owners[order.id]? = some order.userId :=
    book.flying caller order.userId order.id (by rw [isStarted]; rfl)
  have unlanded : ∀ other userId id, phases other = .landed userId id → other ≠ caller := by
    rintro other userId id isLanded rfl
    rw [isStarted] at isLanded
    cases isLanded
  refine ⟨book.owned, book.distinct, book.flying_update fun userId id isOrder => ?_,
    fun first second userId id isFirst isSecond => ?_, fun id isChained => ?_, ?_,
    fun id isGone => ⟨(book.cancelled id isGone).used, (book.cancelled id isGone).closed⟩⟩
  · cases isOrder
    exact owner
  · by_cases firstSame : first = caller <;> by_cases secondSame : second = caller
    · exact firstSame.trans secondSame.symm
    · rw [firstSame, Function.update_self] at isFirst
      cases isFirst
      rw [Function.update_of_ne secondSame] at isSecond
      exact (others second secondSame isSecond).elim
    · rw [secondSame, Function.update_self] at isSecond
      cases isSecond
      rw [Function.update_of_ne firstSame] at isFirst
      exact (others first firstSame isFirst).elim
    · rw [Function.update_of_ne firstSame] at isFirst
      rw [Function.update_of_ne secondSame] at isSecond
      exact book.single first second userId id isFirst isSecond
  · rcases List.mem_cons.mp isChained with rfl | older
    · exact Or.inl ⟨caller, order.userId, Function.update_self _ _ _⟩
    · rcases book.chained id older with ⟨other, userId, isLanded⟩ | isOver
      · refine Or.inl ⟨other, userId, ?_⟩
        rw [Function.update_of_ne (unlanded other userId id isLanded)]
        exact isLanded
      · exact Or.inr ⟨isOver.used, isOver.closed⟩
  · refine List.nodup_cons.mpr ⟨fun older => ?_, book.once⟩
    rcases book.chained order.id older with ⟨other, userId, isLanded⟩ | isOver
    · have isOwner := book.flying other userId order.id (by rw [isLanded]; rfl)
      rw [owner] at isOwner
      rw [← Option.some.inj isOwner] at isLanded
      exact others other (unlanded other _ _ isLanded) isLanded
    · exact isOver.closed order.userId row member isId statusOpen

theorem Book.awaited_land (book : Book store phases gone) (awaited : Awaited store phases)
    {order : JupiterLimitOrder} (isOpen : store.isOpen order.userId order.id = true) :
    Awaited (store.land order)
      (Function.update phases caller (.landed order.userId order.id)) := by
  obtain ⟨row, member, isRow⟩ := List.any_eq_true.mp isOpen
  obtain ⟨isId, statusOpen⟩ := of_decide_eq_true isRow
  intro other userId id isLanded found isFound sameId
  by_cases same : other = caller
  · rw [same, Function.update_self] at isLanded
    cases isLanded
    rw [(book.distinct _).eq isFound member (sameId.trans isId.symm)]
    exact statusOpen
  · rw [Function.update_of_ne same] at isLanded
    exact awaited other userId id isLanded found isFound sameId

end Phases

/-! ### Steps -/

/-- The orders and the swaps are in order. -/
structure InOrder (moment : Moment venue) : Prop where
  book : Book moment.state (lane.phase moment) (cancelled moment)
  awaited : Awaited moment.state (lane.phase moment)

theorem cancelled_after (step : Step venue) :
    cancelled step.after = (cancelOf step.event).toList ++ cancelled step.before := by
  show List.filterMap cancelOf (step.event :: step.before.log) = _
  rw [List.filterMap_cons]
  cases cancelOf step.event <;> rfl

variable {step : Step venue}

theorem inOrder_after
    (book : Book step.after.state (Function.update (lane.phase step.before) step.caller
        (lane.next (lane.phase step.before step.caller) step.op step.reply))
      ((cancelOf step.event).toList ++ cancelled step.before))
    (awaited : Awaited step.after.state (Function.update (lane.phase step.before) step.caller
      (lane.next (lane.phase step.before step.caller) step.op step.reply))) :
    InOrder step.after := by
  constructor
  · rw [Protocol.phases_after, cancelled_after]
    exact book
  · rw [Protocol.phases_after]
    exact awaited

theorem inOrder_still
    (phase : lane.next (lane.phase step.before step.caller) step.op step.reply =
      lane.phase step.before step.caller)
    (book : Book step.after.state (lane.phase step.before)
      ((cancelOf step.event).toList ++ cancelled step.before))
    (awaited : Awaited step.after.state (lane.phase step.before)) : InOrder step.after := by
  refine inOrder_after ?_ ?_
  · rw [phase, Function.update_eq_self]
    exact book
  · rw [phase, Function.update_eq_self]
    exact awaited

theorem inOrder_same (inOrder : InOrder step.before) (store : step.after.state = step.before.state)
    (phase : lane.next (lane.phase step.before step.caller) step.op step.reply =
      lane.phase step.before step.caller) (uncancelled : cancelOf step.event = none) :
    InOrder step.after ∧ Steady step.before.state step.after.state := by
  refine ⟨inOrder_still phase ?_ ?_, inOrder.book.steady_same (congrArg Store.list store)⟩
  · rw [store, uncancelled]
    exact inOrder.book
  · rw [store]
    exact inOrder.awaited

section Steps

variable {before : Moment venue} {caller : ℕ}

theorem create_keeps (inOrder : InOrder before) {userId : String} {raw : RawOrder} {now : ℕ}
    (suits : Suits before caller (.createJupiterLimitOrder userId raw) now) :
    InOrder (Step.mk before caller (.createJupiterLimitOrder userId raw) now).after ∧
      Steady before.state
        (Step.mk before caller (.createJupiterLimitOrder userId raw) now).after.state := by
  cases checked : checkOrder raw with
  | error message =>
    have performed : perform (.createJupiterLimitOrder userId raw) now before.state =
        (before.state, .error message) := by
      show JupiterLimit.createJupiterLimitOrder userId raw now before.state = _
      unfold JupiterLimit.createJupiterLimitOrder
      rw [checked]
    exact inOrder_same inOrder (congrArg Prod.fst performed) rfl rfl
  | ok sym =>
    have performed : (perform (.createJupiterLimitOrder userId raw) now before.state).1 =
        before.state.replace (before.state.owners ++ [userId]) userId
          ((newOrder before.state.owners.length userId raw sym now ::
            before.state.list userId).take 40) := by
      show (JupiterLimit.createJupiterLimitOrder userId raw now before.state).1 = _
      unfold JupiterLimit.createJupiterLimitOrder
      rw [checked]
      rfl
    have isNew : (newOrder before.state.owners.length userId raw sym now).id =
        before.state.owners.length := rfl
    obtain ⟨created, awaited, steady⟩ := inOrder.book.create inOrder.awaited isNew suits
    rw [← performed] at created awaited steady
    exact ⟨inOrder_still rfl created awaited, steady⟩

theorem cancel_keeps (inOrder : InOrder before) {userId : String} {orderId : ℕ}
    (permitted : lane.permits (lane.phase before caller) (.cancelJupiterLimitOrder userId orderId))
    (suits : Suits before caller (.cancelJupiterLimitOrder userId orderId) ()) :
    InOrder (Step.mk before caller (.cancelJupiterLimitOrder userId orderId) ()).after ∧
      Steady before.state
        (Step.mk before caller (.cancelJupiterLimitOrder userId orderId) ()).after.state := by
  have isFree : lane.phase before caller = .free := permitted
  cases replaced : replaceFirst (fun row => row.id = orderId ∧ row.status = .open)
      JupiterLimitOrder.cancel (before.state.list userId) with
  | none =>
    have performed : perform (.cancelJupiterLimitOrder userId orderId) () before.state =
        (before.state, .ok false) := by
      show ((JupiterLimit.cancelJupiterLimitOrder userId orderId before.state).1,
        Except.ok (JupiterLimit.cancelJupiterLimitOrder userId orderId before.state).2) = _
      unfold JupiterLimit.cancelJupiterLimitOrder
      rw [replaced]
    have event : (Step.mk before caller (.cancelJupiterLimitOrder userId orderId) ()).event =
        ⟨caller, .cancelJupiterLimitOrder userId orderId, (), .ok false⟩ :=
      congrArg (@Event.mk venue caller (.cancelJupiterLimitOrder userId orderId) ())
        (congrArg Prod.snd performed)
    exact inOrder_same inOrder (congrArg Prod.fst performed) rfl (by rw [event]; rfl)
  | some rows =>
    have performed : perform (.cancelJupiterLimitOrder userId orderId) () before.state =
        (before.state.replace before.state.owners userId rows, .ok true) := by
      show ((JupiterLimit.cancelJupiterLimitOrder userId orderId before.state).1,
        Except.ok (JupiterLimit.cancelJupiterLimitOrder userId orderId before.state).2) = _
      unfold JupiterLimit.cancelJupiterLimitOrder
      rw [replaced]
      rfl
    have event : (Step.mk before caller (.cancelJupiterLimitOrder userId orderId) ()).event =
        ⟨caller, .cancelJupiterLimitOrder userId orderId, (), .ok true⟩ :=
      congrArg (@Event.mk venue caller (.cancelJupiterLimitOrder userId orderId) ())
        (congrArg Prod.snd performed)
    have state : (Step.mk before caller (.cancelJupiterLimitOrder userId orderId) ()).after.state =
        before.state.replace before.state.owners userId rows := congrArg Prod.fst performed
    obtain ⟨earlier, row, later, isList, found, rfl⟩ := replaceFirst_some replaced
    obtain ⟨rfl, isOpen⟩ := of_decide_eq_true found
    have isFound : before.state.isOpen userId row.id = true := by
      refine List.any_eq_true.mpr ⟨row, ?_, found⟩
      rw [isList]
      exact List.mem_append_right _ List.mem_cons_self
    have unlanded : ∀ other, lane.phase before other ≠ .landed userId row.id := by
      intro other
      by_cases same : other = caller
      · rw [same, isFree]
        exact nofun
      · exact (suits isFound).apply nofun same
    have sameId : row.cancel.id = row.id := rfl
    have closed : row.cancel.status ≠ .open := nofun
    refine ⟨inOrder_still rfl ?_ ?_, ?_⟩
    · rw [state, event]
      exact (inOrder.book.replace (inOrder.book.replaced isList sameId closed)).cancel
        (inOrder.book.over_changed isList closed)
    · rw [state]
      exact inOrder.awaited.close (inOrder.book.distinct userId) isList sameId unlanded
    · rw [state]
      exact inOrder.book.steady_changed isList sameId isOpen

variable {order : JupiterLimitOrder}

theorem fill_keeps (inOrder : InOrder before) {txSignature : String}
    (permitted : lane.permits (lane.phase before caller) (.fillOrder order txSignature)) (now : ℕ) :
    InOrder (Step.mk before caller (.fillOrder order txSignature) now).after ∧
      Steady before.state
        (Step.mk before caller (.fillOrder order txSignature) now).after.state := by
  have isLanded : lane.phase before caller = .landed order.userId order.id := permitted
  have entered : ∀ {store : Store}, Over store order.id → ∀ userId id,
      lane.phase before caller = .landed userId id → Over store id := by
    intro store isOver userId id isOther
    rw [isLanded] at isOther
    cases isOther
    exact isOver
  have moved : Awaited before.state (Function.update (lane.phase before) caller .free) :=
    inOrder.awaited.move free_grounded
  cases replaced : replaceFirst (fun row => row.id = order.id)
      (JupiterLimitOrder.fill txSignature now) (before.state.list order.userId) with
  | none =>
    have performed : JupiterLimit.fillOrder order txSignature now before.state = before.state := by
      unfold JupiterLimit.fillOrder
      rw [replaced]
    have state : (Step.mk before caller (.fillOrder order txSignature) now).after.state =
        before.state := performed
    have isOver : Over before.state order.id := by
      have owner := inOrder.book.flying caller order.userId order.id (by rw [isLanded]; rfl)
      refine inOrder.book.over_absent owner fun row member => ?_
      exact of_decide_eq_false (replaceFirst_none replaced row member)
    rw [state]
    refine ⟨inOrder_after ?_ ?_, inOrder.book.steady_same rfl⟩
    · rw [state]
      exact inOrder.book.release (entered isOver)
    · rw [state]
      exact moved
  | some rows =>
    have performed : JupiterLimit.fillOrder order txSignature now before.state =
        before.state.replace before.state.owners order.userId rows := by
      unfold JupiterLimit.fillOrder
      rw [replaced]
      rfl
    have state : (Step.mk before caller (.fillOrder order txSignature) now).after.state =
        before.state.replace before.state.owners order.userId rows := performed
    obtain ⟨earlier, row, later, isList, found, rfl⟩ := replaceFirst_some replaced
    have isId : row.id = order.id := of_decide_eq_true found
    have isOpen : row.status = .open := by
      refine inOrder.awaited caller order.userId order.id isLanded row ?_ isId
      rw [isList]
      exact List.mem_append_right _ List.mem_cons_self
    have sameId : (row.fill txSignature now).id = row.id := rfl
    have closed : (row.fill txSignature now).status ≠ .open := nofun
    have unlanded : ∀ other, Function.update (lane.phase before) caller .free other ≠
        .landed order.userId row.id := by
      intro other isOther
      have wasLanded := landed_of_update free_grounded isOther
      rw [isId] at wasLanded
      rw [inOrder.book.single other caller _ _ wasLanded isLanded, Function.update_self] at isOther
      cases isOther
    rw [state]
    refine ⟨inOrder_after ?_ ?_, inOrder.book.steady_changed isList sameId isOpen⟩
    · rw [state]
      refine (inOrder.book.replace (inOrder.book.replaced isList sameId closed)).release
        (entered ?_)
      rw [← isId]
      exact inOrder.book.over_changed isList closed
    · rw [state]
      exact moved.close (inOrder.book.distinct order.userId) isList sameId unlanded

theorem start_keeps (inOrder : InOrder before) {request : SwapRequest}
    (permitted : lane.permits (lane.phase before caller) (.startSwap order request))
    (suits : Suits before caller (.startSwap order request) ()) :
    InOrder (Step.mk before caller (.startSwap order request) ()).after := by
  have isFree : lane.phase before caller = .free := permitted
  obtain ⟨row, member, isRow⟩ := List.any_eq_true.mp suits
  have isId : row.id = order.id := (of_decide_eq_true isRow).1
  refine inOrder_after ?_ ?_
  · show Book before.state (Function.update (lane.phase before) caller
      (.started order.userId order.id)) (cancelled before)
    refine inOrder.book.move (fun userId id isLanded => ?_) (fun userId id isOrder => ?_)
      fun _ _ => nofun
    · rw [isFree] at isLanded
      cases isLanded
    · cases isOrder
      rw [← isId]
      exact inOrder.book.owned order.userId row member
  · show Awaited before.state (Function.update (lane.phase before) caller
      (.started order.userId order.id))
    exact inOrder.awaited.move fun _ _ => nofun

theorem finish_keeps (inOrder : InOrder before) {fate : SwapFate}
    (permitted : lane.permits (lane.phase before caller) (.finishSwap order))
    (suits : Suits before caller (.finishSwap order) fate) :
    InOrder (Step.mk before caller (.finishSwap order) fate).after := by
  have isStarted : lane.phase before caller = .started order.userId order.id := permitted
  cases fate with
  | failed message =>
    refine inOrder_after ?_ ?_
    · show Book before.state (Function.update (lane.phase before) caller .free) (cancelled before)
      refine inOrder.book.release fun userId id isLanded => ?_
      rw [isStarted] at isLanded
      cases isLanded
    · exact inOrder.awaited.move free_grounded
  | landed txSignature =>
    obtain ⟨isOpen, unlanded⟩ := suits
    refine inOrder_after ?_ ?_
    · exact inOrder.book.land isStarted isOpen fun other different =>
        unlanded.apply nofun different
    · exact inOrder.book.awaited_land inOrder.awaited isOpen
  | landedThenFailed message => exact suits.elim

end Steps

theorem stepSound_of_steady (startless : ∀ order request, step.op ≠ .startSwap order request)
    (steady : Steady step.before.state step.after.state) : StepSound step :=
  ⟨fun order request isStart => (startless order request isStart).elim, steady⟩

theorem keeps_step (step : Step venue)
    (permitted : lane.permits (lane.phase step.before step.caller) step.op)
    (orderly : Orderly step) (inOrder : InOrder step.before) :
    StepSound step ∧ InOrder step.after := by
  obtain ⟨before, caller, op, fate⟩ := step
  cases op with
  | createJupiterLimitOrder userId raw =>
    obtain ⟨kept, steady⟩ := create_keeps inOrder orderly
    exact ⟨stepSound_of_steady (fun _ _ => Op.noConfusion) steady, kept⟩
  | cancelJupiterLimitOrder userId orderId =>
    obtain ⟨kept, steady⟩ := cancel_keeps inOrder permitted orderly
    exact ⟨stepSound_of_steady (fun _ _ => Op.noConfusion) steady, kept⟩
  | fillOrder order txSignature =>
    obtain ⟨kept, steady⟩ := fill_keeps inOrder permitted fate
    exact ⟨stepSound_of_steady (fun _ _ => Op.noConfusion) steady, kept⟩
  | startSwap order request =>
    refine ⟨⟨fun other otherRequest isStart isCancelled => ?_, inOrder.book.steady_same rfl⟩,
      start_keeps inOrder permitted orderly⟩
    cases isStart
    obtain ⟨row, member, isRow⟩ := List.any_eq_true.mp orderly
    obtain ⟨isId, isOpen⟩ := of_decide_eq_true isRow
    exact (inOrder.book.cancelled order.id isCancelled).closed order.userId row member isId isOpen
  | finishSwap order =>
    refine ⟨stepSound_of_steady (fun _ _ => Op.noConfusion) (inOrder.book.steady_same ?_),
      finish_keeps inOrder permitted orderly⟩
    cases fate <;> rfl
  | _ =>
    obtain ⟨kept, steady⟩ := inOrder_same inOrder rfl rfl rfl
    exact ⟨stepSound_of_steady (fun _ _ => Op.noConfusion) steady, kept⟩

/-- In an orderly run every order is executed at most once, whatever is interleaved. -/
theorem executesOnce_of_orderly (settings : Settings) (requests : List Request)
    (turns : List (Turn venue))
    (orderly : ∀ step ∈ (limitSystem settings requests).steps turns, Orderly step) :
    (∀ step ∈ (limitSystem settings requests).steps turns, StepSound step) ∧
      ∀ id, ((limitSystem settings requests).run turns).moment.state.chain.count id ≤ 1 := by
  have allowed : ∀ step ∈ (limitSystem settings requests).steps turns,
      lane.permits (lane.phase step.before step.caller) step.op ∧ Orderly step :=
    fun step member =>
      ⟨permits_of_mem_steps settings requests turns step member, orderly step member⟩
  have start : InOrder (limitSystem settings requests).moment := ⟨Book.start, nofun⟩
  obtain ⟨inOrder, sound⟩ := Async.System.run_keeps
    (fun step holds both => keeps_step step both.1 both.2 holds) start turns allowed
  exact ⟨sound, fun id => List.nodup_iff_count_le_one.mp inOrder.book.once id⟩

/-! ### Runs -/

instance (before : Moment venue) (caller : ℕ) (userId : String) (id : ℕ) :
    Decidable (Unlanded before caller userId id) :=
  inferInstanceAs (Decidable (lane.Others before caller fun phase => phase ≠ .landed userId id))

instance (before : Moment venue) (caller : ℕ) (op : Op) (fate : Fate op) :
    Decidable (Suits before caller op fate) :=
  match op, fate with
  | .createJupiterLimitOrder _ _, _ => inferInstanceAs (Decidable (_ = true))
  | .cancelJupiterLimitOrder userId orderId, _ =>
    inferInstanceAs (Decidable (_ → Unlanded before caller userId orderId))
  | .startSwap _ _, _ => inferInstanceAs (Decidable (_ = true))
  | .finishSwap order, .landed _ =>
    inferInstanceAs (Decidable (_ ∧ Unlanded before caller order.userId order.id))
  | .finishSwap _, .landedThenFailed _ => inferInstanceAs (Decidable False)
  | .finishSwap _, .failed _ => inferInstanceAs (Decidable True)
  | .isJupiterSwapRateLimited, _ | .openOrders _, _ | .getJupiterExecutableMarks _, _
  | .previewJupiterSwap _ _, _ | .fillOrder _ _, _ => inferInstanceAs (Decidable True)

instance (step : Step venue) : Decidable (Orderly step) :=
  inferInstanceAs (Decidable (Suits _ _ _ _))

/-- Everything answers: the price is 100, and swaps land. -/
def fine : (op : Op) → Fate op
  | .createJupiterLimitOrder _ _ => (0 : ℕ)
  | .isJupiterSwapRateLimited => false
  | .getJupiterExecutableMarks _ => .ok (some ⟨some 100, some 100⟩)
  | .previewJupiterSwap _ _ => .ok ⟨true, false, none, none⟩
  | .finishSwap _ => SwapFate.landed "signature"
  | .fillOrder _ _ => (1 : ℕ)
  | .cancelJupiterLimitOrder _ _ => ()
  | .openOrders _ => ()
  | .startSwap _ _ => ()

def turnsOf (caller count : ℕ) : List (Turn venue) := List.replicate count ⟨caller, fine⟩

def watching : Settings := ⟨true, true, true⟩

def fiftyAtHundred : RawOrder := ⟨"SOLUSDT", .buy, 100, 50, none⟩

/-- An order is filled, and another one cancelled. -/
theorem executesOnce_of_orderly_pass :
    (∀ step ∈ (limitSystem watching [.create "user" fiftyAtHundred, .watch 2,
        .create "user" fiftyAtHundred, .cancel "user" 1]).steps
        (turnsOf 0 1 ++ turnsOf 1 8 ++ turnsOf 2 1 ++ turnsOf 3 1), StepSound step) ∧
      ∀ id, ((limitSystem watching [.create "user" fiftyAtHundred, .watch 2,
        .create "user" fiftyAtHundred, .cancel "user" 1]).run
        (turnsOf 0 1 ++ turnsOf 1 8 ++ turnsOf 2 1 ++ turnsOf 3 1)).moment.state.chain.count id ≤ 1 :=
  executesOnce_of_orderly watching _ _ (by decide +kernel)

/-- Two passes overlap: each has found the order OPEN, and each swaps. -/
theorem not_executesOnce : ¬ ∀ (settings : Settings) (requests : List Request)
    (turns : List (Turn venue)),
    (∀ step ∈ (limitSystem settings requests).steps turns, StepSound step) ∧
      ∀ id, ((limitSystem settings requests).run turns).moment.state.chain.count id ≤ 1 := by
  intro always
  have once := (always watching [.create "user" fiftyAtHundred, .watch 1, .watch 1]
    (turnsOf 0 1 ++ turnsOf 1 4 ++ turnsOf 2 4 ++ turnsOf 1 3 ++ turnsOf 2 3)).2 0
  exact absurd once (by decide +kernel)

end GdslExchange.JupiterLimit
