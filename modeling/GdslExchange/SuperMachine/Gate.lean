/-
This file settles when the automatic BUY of the Super Machine obeys the risk gate.

The gate is asked about the Kelly size of the meta-policy, and only where there is
one. What is executed is the effective maximum trade times a factor, whatever the
policy and the gate have said; so the gate is obeyed exactly where the two sizes are
the same.
-/

import GdslExchange.SuperMachine.Grounds

namespace GdslExchange.SuperMachine

open Async Async.Program

/-! ### The property and the condition -/

/-- A BUY is executed only after the risk gate has been asked about the user and the executed size,
in the decision on the token that is bought, and has allowed it, and never where that decision had
the size 0. -/
def GateObeyed : Step world → Prop
  | ⟨before, caller, .executeJupiterSwap request, delivery⟩ =>
    let readings := grounds.phase before caller
    Executes request delivery before.state →
      readings.allowed = some (before.state.config.userId, request.amount) ∧
        ∀ policy ∈ readings.policy, policy.orderSize ≠ 0
  | _ => True

/-- When a BUY is executed, the Kelly size of its token is the dynamic size of the cap. -/
def SizedByPolicy : Step world → Prop
  | ⟨before, caller, .executeJupiterSwap request, delivery⟩ =>
    let readings := grounds.phase before caller
    Executes request delivery before.state →
      ∀ policy ∈ readings.policy, ∀ row ∈ readings.tick.row, ∀ tick ∈ readings.published,
        policy.orderSize = calculateDynamicSize (readings.tick.maxTrade row) tick.1 tick.2
  | _ => True

/-! ### Every BUY -/

theorem gateObeyed_iff {config : Config} {step : Step world}
    (permitted : grounds.permits (grounds.phase step.before step.caller) step.op)
    (kept : LimitsKept config step.before) : GateObeyed step ↔ SizedByPolicy step := by
  obtain ⟨before, caller, op, delivery⟩ := step
  cases op with
  | executeJupiterSwap request =>
    obtain ⟨row, refreshed, confidence, stats, grounded⟩ := permitted
    obtain ⟨policy, decided, asked⟩ := grounded.cleared
    have sameUser : refreshed.userId = before.state.config.userId :=
      ((kept.refreshed caller refreshed grounded.due.refreshedRead).userId).trans
        kept.stored.userId.symm
    refine forall_congr' fun executes => ?_
    constructor
    · rintro ⟨allowed, -⟩ other isOther otherRow isRow tick isPublished
      cases decided.symm.trans isOther
      cases grounded.due.rowRead.symm.trans isRow
      cases grounded.published.symm.trans isPublished
      rw [← grounded.sized]
      have both := asked.symm.trans allowed
      split at both
      · injection both with both
        exact congrArg Prod.snd both
      · cases both
    · intro sized
      have same : policy.orderSize = request.amount :=
        (sized policy decided row grounded.due.rowRead _ grounded.published).trans
          grounded.sized.symm
      have positive : 0 < policy.orderSize := same ▸ executes.1
      refine ⟨?_, fun other isOther => ?_⟩
      · rw [asked, if_pos positive, same, sameUser]
      · cases decided.symm.trans isOther
        exact positive.ne'
  | _ => exact Iff.rfl

/-- In a run of the Super Machine every executed BUY obeys the risk gate if and only if, whenever a
BUY is executed, the Kelly size of its token is the dynamic size of the cap. -/
theorem gateObeyed_iff_sizedByPolicy (today : String) (config : Config) (usdc : ℚ)
    (requests : List Request) (turns : List (Turn world)) :
    (∀ step ∈ (superMachine today config usdc requests).steps turns, GateObeyed step) ↔
      ∀ step ∈ (superMachine today config usdc requests).steps turns, SizedByPolicy step :=
  forall₂_congr fun step member =>
    gateObeyed_iff (permits_of_mem_steps today config usdc requests turns step member)
      (limitsKept_of_mem_steps today config usdc requests turns step member)

section Example

instance (step : Step world) : Decidable (GateObeyed step) := by
  obtain ⟨before, caller, op, fate⟩ := step
  rcases op with _ | _
  case executeJupiterSwap request =>
    unfold GateObeyed
    infer_instance
  all_goals exact isTrue trivial

/-- One tick, from the row to the swap. -/
private def undecidedBuy : List (Step world) :=
  (superMachine "2025-01-01" aliceConfig 100 [.tick]).steps
    (List.replicate 28 ⟨0, (trending 95).fate⟩)

/-- The policy holds, the gate is not asked, and the machine buys. -/
theorem not_gateObeyed : ¬ ∀ (today : String) (config : Config) (usdc : ℚ)
    (requests : List Request) (turns : List (Turn world)),
    ∀ step ∈ (superMachine today config usdc requests).steps turns, GateObeyed step := by
  intro obeyed
  have steps : ∀ step ∈ undecidedBuy, GateObeyed step := obeyed _ _ _ _ _
  revert steps
  decide +kernel

end Example

end GdslExchange.SuperMachine
