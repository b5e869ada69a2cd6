/-
This file reads the limit orders as rows that calls go through phases about: a caller
is free, has started the swap of an order, or has seen it land and not yet entered it.
It gives what each access to the rows leaves of them.
-/

import GdslExchange.Async.Protocol
import GdslExchange.JupiterLimit.Service

namespace GdslExchange.JupiterLimit

open Async Async.Program
open Protocol (Follows Stays ends permitted)

/-! ### Phases -/

inductive Phase where
  | free
  | started (userId : String) (id : ℕ)
  | landed (userId : String) (id : ℕ)
deriving DecidableEq

/-- The order whose swap a caller has not come to the end of. -/
def Phase.order : Phase → Option (String × ℕ)
  | free => none
  | started userId id => some (userId, id)
  | landed userId id => some (userId, id)

def lane : Protocol venue Phase where
  start := .free
  permits phase
    | .startSwap _ _ => phase = .free
    | .finishSwap order => phase = .started order.userId order.id
    | .fillOrder order _ => phase = .landed order.userId order.id
    | .createJupiterLimitOrder _ _ => phase = .free
    | .cancelJupiterLimitOrder _ _ => phase = .free
    | _ => True
  next phase
    | .startSwap order _, .ok _ => .started order.userId order.id
    | .finishSwap order, .ok _ => .landed order.userId order.id
    | .startSwap _ _, .error _ => .free
    | .finishSwap _, .error _ => .free
    | .fillOrder _ _, _ => .free
    | _, _ => phase

theorem executeOrder_stays (order : JupiterLimitOrder) : lane.Stays .free (executeOrder order) := by
  refine Follows.moves (fun _ => .started order.userId order.id) rfl (fun _ => rfl)
    (fun _ => rfl) fun _ => ?_
  refine Follows.moves (fun _ => .landed order.userId order.id) rfl (fun _ => rfl)
    (fun _ => rfl) fun txSignature => ?_
  exact Follows.perform rfl (fun _ => rfl) fun _ => rfl

theorem tryFillOrder_stays (order : JupiterLimitOrder) :
    lane.Stays .free (tryFillOrder order) := by
  refine Stays.bind (Stays.perform ⟨trivial, fun _ => rfl⟩) fun marks? => ?_
  cases marks? with
  | none => exact rfl
  | some marks =>
    dsimp only
    split
    · exact rfl
    · refine Stays.bind (Stays.perform ⟨trivial, fun _ => rfl⟩) fun preview => ?_
      split
      · exact rfl
      · exact executeOrder_stays order

theorem visitUsers_stays (fuel index : ℕ) : lane.Stays .free (visitUsers fuel index) := by
  induction fuel generalizing index with
  | zero => exact rfl
  | succ fuel inductionHypothesis =>
    refine Stays.bind (Stays.perform ⟨trivial, fun _ => rfl⟩) fun rows? => ?_
    cases rows? with
    | none => exact rfl
    | some rows =>
      refine Stays.bind (Stays.forEach fun order => ?_) fun _ =>
        inductionHypothesis (index + 1)
      exact Stays.recover (tryFillOrder_stays order) fun _ => rfl

theorem runJupiterLimitOrderWatcher_stays (settings : Settings) (fuel : ℕ) :
    lane.Stays .free (runJupiterLimitOrderWatcher settings fuel) := by
  unfold runJupiterLimitOrderWatcher
  split
  · exact rfl
  · refine Stays.bind (Stays.perform ⟨trivial, fun _ => rfl⟩) fun limited => ?_
    split
    · exact rfl
    · exact visitUsers_stays fuel 0

/-- Every request goes through the phases. -/
theorem request_stays (settings : Settings) (request : Request) :
    lane.Stays .free (request.call settings) := by
  cases request with
  | create userId raw =>
    exact Stays.bind (Stays.perform ⟨rfl, fun _ => rfl⟩) fun _ => rfl
  | cancel userId orderId =>
    exact Stays.bind (Stays.perform ⟨rfl, fun _ => rfl⟩) fun _ => rfl
  | watch fuel => exact runJupiterLimitOrderWatcher_stays settings fuel

theorem permits_of_mem_steps (settings : Settings) (requests : List Request)
    (turns : List (Turn venue)) :
    ∀ step ∈ (limitSystem settings requests).steps turns,
      lane.permits (lane.phase step.before step.caller) step.op :=
  permitted (System.each_call fun _ request => request_stays settings request) turns

variable {rows : List JupiterLimitOrder}

/-! ### Rows -/

theorem replaceFirst_some {predicate : JupiterLimitOrder → Bool}
    {change : JupiterLimitOrder → JupiterLimitOrder} {changed : List JupiterLimitOrder}
    (isChanged : replaceFirst predicate change rows = some changed) :
    ∃ before row after, rows = before ++ row :: after ∧ predicate row = true ∧
      changed = before ++ change row :: after := by
  induction rows generalizing changed with
  | nil => cases isChanged
  | cons row rest inductionHypothesis =>
    unfold replaceFirst at isChanged
    split at isChanged
    · exact ⟨[], row, rest, rfl, ‹_›, (Option.some.inj isChanged).symm⟩
    · obtain ⟨tail, isTail, rfl⟩ := Option.map_eq_some_iff.mp isChanged
      obtain ⟨before, found, after, rfl, holds, rfl⟩ := inductionHypothesis isTail
      exact ⟨row :: before, found, after, rfl, holds, rfl⟩

theorem replaceFirst_none {predicate : JupiterLimitOrder → Bool}
    {change : JupiterLimitOrder → JupiterLimitOrder}
    (isNone : replaceFirst predicate change rows = none) :
    ∀ row ∈ rows, predicate row = false := by
  induction rows with
  | nil => exact List.forall_mem_nil _
  | cons row rest inductionHypothesis =>
    unfold replaceFirst at isNone
    split at isNone
    · cases isNone
    · intro other member
      rcases List.mem_cons.mp member with rfl | later
      · exact Bool.eq_false_of_not_eq_true ‹_›
      · exact inductionHypothesis (Option.map_eq_none_iff.mp isNone) other later

/-- Rows of one user, of which no two are one order. -/
def Distinct (rows : List JupiterLimitOrder) : Prop := (rows.map JupiterLimitOrder.id).Nodup

theorem Distinct.eq (distinct : Distinct rows) {first second : JupiterLimitOrder}
    (firstIn : first ∈ rows) (secondIn : second ∈ rows) (same : first.id = second.id) :
    first = second :=
  List.inj_on_of_nodup_map distinct firstIn secondIn same

variable {before after : List JupiterLimitOrder} {row changed : JupiterLimitOrder}

theorem Distinct.of_changed (distinct : Distinct (before ++ row :: after))
    (sameId : changed.id = row.id) : Distinct (before ++ changed :: after) := by
  unfold Distinct at *
  rw [List.map_append, List.map_cons, sameId, ← List.map_cons, ← List.map_append]
  exact distinct

theorem mem_changed {other : JupiterLimitOrder} (distinct : Distinct (before ++ row :: after))
    (member : other ∈ before ++ changed :: after) :
    other = changed ∨ other ∈ before ++ row :: after ∧ other.id ≠ row.id := by
  rcases List.mem_append.mp member with earlier | rest
  · refine Or.inr ⟨List.mem_append_left _ earlier, fun same => ?_⟩
    unfold Distinct at distinct
    rw [List.map_append, List.map_cons, List.nodup_append] at distinct
    exact distinct.2.2 _ (List.mem_map_of_mem earlier) _ List.mem_cons_self same
  · rcases List.mem_cons.mp rest with isChanged | later
    · exact Or.inl isChanged
    · refine Or.inr ⟨List.mem_append_right _ (List.mem_cons_of_mem _ later), fun same => ?_⟩
      unfold Distinct at distinct
      rw [List.map_append, List.map_cons, List.nodup_append, List.nodup_cons] at distinct
      exact distinct.2.1.1 (same ▸ List.mem_map_of_mem later)

theorem exists_of_changed {other : JupiterLimitOrder} (sameId : changed.id = row.id)
    (member : other ∈ before ++ row :: after) :
    ∃ later ∈ before ++ changed :: after, later.id = other.id := by
  rcases List.mem_append.mp member with earlier | rest
  · exact ⟨other, List.mem_append_left _ earlier, rfl⟩
  · rcases List.mem_cons.mp rest with rfl | later
    · exact ⟨changed, List.mem_append_right _ List.mem_cons_self, sameId⟩
    · exact ⟨other, List.mem_append_right _ (List.mem_cons_of_mem _ later), rfl⟩

end GdslExchange.JupiterLimit
