/-
This file is about programs that are run again when they fail: the first run that succeeds is the
result, and every run before it has left its traces.
-/

import GdslExchange.Async.Program
import Mathlib.Logic.Function.Iterate
import Mathlib.Order.Basic

namespace Async

namespace Program

variable {service : Service} {Value : Type}

/-- `for (let i = 0; i < retries; i++) { try { return body } catch (failure) { last = failure } }`,
and `throw last`. -/
def retry (body : Program service Value) : Nat → service.Failure → Program service Value
  | 0, last => failed last
  | retries + 1, _ => body.recover fun failure => retry body retries failure

variable (fates : (op : service.Op) → service.Fate op) (body : Program service Value)

def reached (runs : Nat) (state : service.State) : service.State :=
  (fun before => (body.exec fates before).1)^[runs] state

/-- The run that comes after a number of others fails. -/
def FailsAfter (runs : Nat) (state : service.State) : Prop :=
  ∃ failure, (body.exec fates (body.reached fates runs state)).2 = .error failure

variable {fates body}

theorem reached_succ (runs : Nat) (state : service.State) :
    body.reached fates (runs + 1) state = (body.exec fates (body.reached fates runs state)).1 :=
  Function.iterate_succ_apply' _ _ _

theorem exec_retry_of_success {retries runs : Nat} (few : runs < retries)
    {last : service.Failure} {state after : service.State} {value : Value}
    (fails : ∀ earlier < runs, body.FailsAfter fates earlier state)
    (succeeds : body.exec fates (body.reached fates runs state) = (after, .ok value)) :
    (body.retry retries last).exec fates state = (after, .ok value) := by
  induction runs generalizing retries state last with
  | zero =>
    obtain ⟨more, rfl⟩ := Nat.exists_eq_add_of_le' (Nat.one_le_of_lt few)
    rw [retry, exec_recover, show body.exec fates state = (after, .ok value) from succeeds]
  | succ runs inductionHypothesis =>
    obtain ⟨more, rfl⟩ := Nat.exists_eq_add_of_le' (Nat.one_le_of_lt few)
    obtain ⟨failure, failed⟩ := fails 0 (Nat.succ_pos runs)
    have later := @inductionHypothesis more (Nat.lt_of_succ_lt_succ few) failure
      (body.exec fates state).1
      (fun earlier isEarlier => fails (earlier + 1) (Nat.succ_lt_succ isEarlier)) succeeds
    rw [retry, exec_recover, show body.exec fates state =
      ((body.exec fates state).1, .error failure) from Prod.ext rfl failed]
    exact later

theorem exec_retry_of_failure {retries : Nat} {last : service.Failure} {state : service.State}
    (fails : ∀ runs < retries, body.FailsAfter fates runs state) :
    ∃ failure, (body.retry retries last).exec fates state =
      (body.reached fates retries state, .error failure) := by
  induction retries generalizing state last with
  | zero => exact ⟨last, rfl⟩
  | succ retries inductionHypothesis =>
    obtain ⟨failure, failed⟩ := fails 0 (Nat.succ_pos retries)
    rw [retry, exec_recover, show body.exec fates state =
      ((body.exec fates state).1, .error failure) from Prod.ext rfl failed]
    exact inductionHypothesis fun runs isEarlier =>
      fails (runs + 1) (Nat.succ_lt_succ isEarlier)

theorem all_or_first (fails : Nat → Prop) (retries : Nat) :
    (∀ runs < retries, fails runs) ∨
      ∃ runs < retries, ¬ fails runs ∧ ∀ earlier < runs, fails earlier := by
  induction retries with
  | zero => exact .inl fun runs none => absurd none (Nat.not_lt_zero runs)
  | succ retries inductionHypothesis =>
    obtain all | ⟨runs, few, first⟩ := inductionHypothesis
    · by_cases last : fails retries
      · refine .inl fun runs few => ?_
        obtain earlier | rfl := Nat.lt_succ_iff_lt_or_eq.mp few
        · exact all runs earlier
        · exact last
      · exact .inr ⟨retries, Nat.lt_succ_self retries, last, all⟩
    · exact .inr ⟨runs, Nat.lt_succ_of_lt few, first⟩

theorem only_retry {permitted : service.Op → Prop} (only : body.Only permitted) (retries : Nat)
    (last : service.Failure) : (body.retry retries last).Only permitted := by
  induction retries generalizing last with
  | zero => trivial
  | succ retries inductionHypothesis => exact only_recover only inductionHypothesis

end Program

end Async
