/-
This file says what the size of a market order in base comes to, and when it stays within a
balance: when the greatest number of whole lot steps that the quantity holds does, and the
smallest lot, to which a quantity below it is raised.
-/

import GdslExchange.Async.Protocol
import GdslExchange.Orders.Lots
import GdslExchange.Orders.Service

namespace GdslExchange.Orders

open Async Async.Program
open Numeric
open Protocol (Anywhere Follows Stays anywhere ends permitted)

/-! ### Sizes within a bound -/

namespace SymbolRules

variable (rules : SymbolRules)

/-- What a quantity is sent as, if it is sent, stays within a bound. -/
def Fits (quantity bound : ℚ) : Prop :=
  0 < rules.lot.stepSize.value → ∀ greatest least : ℚ,
    IsGreatest {lots | rules.Holds quantity lots} greatest →
    IsLeast {lots | rules.LeastLots lots} least →
    (rules.Within greatest → greatest ≤ bound) ∧
      (¬ rules.Reaches greatest → rules.Within least → least ≤ bound)

variable {rules} {quantity : ℚ} (positive : 0 < rules.lot.stepSize.value)

theorem fits_iff {bound : ℚ} : rules.Fits quantity bound ↔
    ∀ sent, marketQuantity (some rules) quantity = .ok sent → sent ≤ bound := by
  by_cases positive : 0 < rules.lot.stepSize.value
  · have isGreatest := @isGreatest_holds rules quantity positive
    have isLeast := @isLeast_leastLots rules positive
    constructor
    · intro fits sent isSent
      obtain ⟨held, raised⟩ := fits positive _ _ isGreatest isLeast
      obtain ⟨within, same⟩ :=
        (adjustQuantityToLotSize_eq_ok positive isGreatest isLeast).mp isSent
      split at same
      · rw [same] at within ⊢
        exact held within
      · rw [same] at within ⊢
        exact raised ‹_› within
    · intro below _ greatest least hasGreatest hasLeast
      have isSent {sent : ℚ} := @adjustQuantityToLotSize_eq_ok rules quantity positive
        greatest least sent hasGreatest hasLeast
      refine ⟨fun within => below greatest (isSent.mpr ⟨within, ?_⟩), fun short within =>
        below least (isSent.mpr ⟨within, ?_⟩)⟩
      · rw [if_pos within.1]
      · rw [if_neg short]
  · refine iff_of_true (fun isPositive => absurd isPositive positive) fun sent isSent => ?_
    have refused : adjustQuantityToLotSize quantity rules = .error "Invalid stepSize" :=
      if_pos (not_lt.mp positive)
    unfold marketQuantity at isSent
    simp only [refused] at isSent
    cases isSent

include positive in
/-- Of a quantity bought from a flat account the commission must not exceed what is left beyond the
greatest number of whole steps, and these steps must reach the smallest lot. -/
theorem fits_credited_iff {fee greatest least : ℚ} (nonneg : 0 ≤ quantity * fee)
    (isGreatest : IsGreatest {lots | rules.Holds quantity lots} greatest)
    (isLeast : IsLeast {lots | rules.LeastLots lots} least) :
    rules.Fits quantity (quantity * (1 - fee)) ↔
      (rules.Within greatest → quantity * fee ≤ quantity - greatest) ∧
        (¬ rules.Reaches greatest → ¬ rules.Within least) := by
  have covers : greatest ≤ quantity * (1 - fee) ↔ quantity * fee ≤ quantity - greatest := by
    constructor <;> intro _ <;> linarith
  have raised : ¬ rules.Reaches greatest → rules.Within least → quantity < least := by
    intro short within
    by_contra below
    have tolerated : 0 ≤ lotTolerance * rules.lot.stepSize.value :=
      mul_nonneg (by unfold lotTolerance; norm_num) positive.le
    have held : rules.Holds quantity least := ⟨isLeast.1.1, by linarith⟩
    exact short (within.1.trans (isGreatest.2 held))
  constructor
  · intro fits
    obtain ⟨held, least_le⟩ := fits positive greatest least isGreatest isLeast
    refine ⟨fun within => covers.mp (held within), fun short within => ?_⟩
    have above := raised short within
    have below := least_le short within
    linarith
  · rintro ⟨left, never⟩ _ other otherLeast isOther isOtherLeast
    rw [isOther.unique isGreatest, isOtherLeast.unique isLeast]
    exact ⟨fun within => covers.mpr (left within), fun short within =>
      absurd within (never short)⟩

end SymbolRules

/-! ### What the order service sends -/

/-- The caller has been told the rules of the symbol, and sends the quantity that they make of an
amount of base. -/
def sizing (quantity : ℚ) : Protocol oms (Option (Option SymbolRules)) where
  start := none
  permits phase
    | .placeRemoteOrder request => ∃ rules sent, phase = some rules ∧
        marketQuantity rules quantity = .ok sent ∧ request.size = .base sent
    | _ => True
  next phase
    | .tryGetBinanceSymbolRules _, .ok rules => some rules
    | _, _ => phase

/-- Operations that lead nowhere. -/
def Aside : Op → Prop
  | .tryGetBinanceSymbolRules _ => False
  | .placeRemoteOrder _ => False
  | _ => True

theorem Aside.neutral {op : Op} (aside : Aside op) {quantity : ℚ}
    (phase : Option (Option SymbolRules)) : (sizing quantity).Neutral phase op := by
  cases op <;> first | exact aside.elim | exact ⟨trivial, fun _ => rfl⟩

section Placing

variable {input : CreateOrderInput} (market : input.type = .market)
  (inBase : truthy input.quoteOrderQty = none)

def Sized (quantity sent : ℚ) (phase : Option (Option SymbolRules)) : Prop :=
  ∃ rules, phase = some rules ∧ marketQuantity rules quantity = .ok sent

theorem anywhere_preparing {Value : Type} {quantity : ℚ} {program : Call Value}
    (only : program.Only Preparing) : (sizing quantity).Anywhere program := by
  refine Anywhere.only (only.mono fun op preparing phase => ?_)
  cases op <;> first | exact preparing.elim | exact trivial

theorem aside_then {Value : Type} {quantity : ℚ} {phase : Option (Option SymbolRules)} {op : Op}
    {next : Result op → Call Value} (aside : Aside op)
    (tail : ∀ result, (sizing quantity).Follows phase (next result) anywhere) :
    (sizing quantity).Follows phase (await op >>= next) anywhere :=
  (Stays.perform (aside.neutral phase)).andThen tail trivial

theorem anywhere_aside {Value : Type} {quantity : ℚ} {program : Call Value}
    (only : program.Only Aside) : (sizing quantity).Anywhere program :=
  Anywhere.only (only.mono fun _ aside phase => (aside.neutral phase).1)

include inBase in
theorem submitQuantity_follows (phase : Option (Option SymbolRules)) :
    (sizing input.quantity).Follows phase (submitQuantity input)
      (ends (Sized input.quantity) fun _ => True) := by
  have told : (sizing input.quantity).Follows phase (await (.tryGetBinanceSymbolRules input.symbol))
      (ends (fun rules reached => reached = some rules) fun _ => True) :=
    Follows.perform trivial (fun _ => rfl) fun _ => trivial
  unfold submitQuantity
  rw [inBase]
  have normalized : (sizing input.quantity).Follows phase
      (normalizeBaseQuantity input.symbol input.quantity (input.price.getD 0))
      (ends (fun text reached =>
        Sized input.quantity ((text.map Fixed.value).getD input.quantity) reached)
        fun _ => True) := by
    refine Follows.bind told fun rules reached same => ?_
    cases rules with
    | none => exact ⟨none, same, rfl⟩
    | some rules =>
      simp only
      split
      · trivial
      · next text adjusted =>
        have isSent : marketQuantity (some rules) input.quantity = .ok text.value := by
          show (adjustQuantityToLotSize input.quantity rules).map Fixed.value = _
          rw [adjusted]
          rfl
        split
        · exact Follows.throwIf (fun _ => trivial) fun _ => ⟨some rules, same, isSent⟩
        · exact ⟨some rules, same, isSent⟩
  exact Follows.bind normalized fun text reached sized => sized

include market inBase in
theorem submitOrder_follows {connection : ExchangeConnection} {sent : ℚ} (clientOrderId : String)
    (id : ℕ) {phase : Option (Option SymbolRules)} (sized : Sized input.quantity sent phase) :
    (sizing input.quantity).Follows phase (submitOrder input connection sent clientOrderId id)
      anywhere := by
  refine aside_then trivial fun apiKey => ?_
  refine aside_then trivial fun apiSecret => ?_
  have placed : (sizing input.quantity).Follows phase
      (adapterPlaceOrder (input.adapterInput sent apiKey apiSecret clientOrderId)) anywhere := by
    obtain ⟨rules, same, isSent⟩ := sized
    unfold adapterPlaceOrder remoteRequest CreateOrderInput.adapterInput
    simp only [market, inBase]
    exact Follows.perform ⟨rules, sent, same, isSent, rfl⟩ (fun _ => trivial)
      fun _ => trivial
  refine Follows.bind placed fun remote reached _ => ?_
  refine anywhere_aside (only_bind ?_ fun status => ?_) reached
  · unfold requireTransition
    split
    · split <;> trivial
    · trivial
  · refine only_then trivial fun time => ?_
    refine only_then trivial fun updated => ?_
    exact only_then trivial fun _ => trivial

include market inBase in
theorem placeOrder_follows_sizing :
    (sizing input.quantity).Follows none (placeOrder input) anywhere := by
  have prepared : (sizing input.quantity).Follows none (prepareOrder input)
      (ends (fun found reached => Sized input.quantity found.2 reached) fun _ => True) := by
    have looked : (sizing input.quantity).Follows none
        (await (.findConnection input.exchangeConnectionId input.userId)) anywhere :=
      Follows.perform trivial (fun _ => trivial) fun _ => trivial
    refine Follows.bind looked fun found reached _ => ?_
    refine Follows.orThrow (fun _ => trivial) fun connection _ => ?_
    refine Follows.throwIf (fun _ => trivial) fun _ => ?_
    refine Follows.bind (anywhere_preparing
      ((only_checkRisk _).mono preparing_of_checking) reached) fun risk later _ => ?_
    refine Follows.bind (anywhere_preparing ?_ later) fun _ last _ => ?_
    · cases risk <;> trivial
    · exact Follows.bind (submitQuantity_follows inBase last)
        fun sent reached sized => sized
  refine Follows.bind prepared fun found reached sized => ?_
  refine aside_then trivial fun clientOrderId => ?_
  refine aside_then trivial fun order => ?_
  refine Follows.recover
    (submitOrder_follows market inBase clientOrderId order.id sized) fun message later _ => ?_
  have rejecting : (rejectOrder input order.id message).Only Aside := by
    refine only_then trivial fun time => ?_
    refine only_then trivial fun _ => ?_
    exact only_then trivial fun _ => trivial
  exact anywhere_aside rejecting later

include market inBase in
/-- Every market order in base that the service sends is of the quantity that the rules of its
symbol, as they have been resolved, make of the quantity that was asked for. -/
theorem sent_of_mem_steps (desk : Desk) (turns : List (Turn oms)) :
    ∀ step ∈ (System.solo desk (placeOrder input)).steps turns, ∀ request,
      step.op = .placeRemoteOrder request → ∃ rules sent,
        (sizing input.quantity).phase step.before step.caller = some rules ∧
        marketQuantity rules input.quantity = .ok sent ∧ request.size = .base sent := by
  intro step member request isOrder
  have follows : ∀ caller program,
      (System.solo desk (placeOrder input)).calls[caller]? = some program →
      (sizing input.quantity).Follows ((sizing input.quantity).phase
        (System.solo desk (placeOrder input)).moment caller) program anywhere := by
    intro caller program found
    rw [List.mem_singleton.mp (List.mem_of_getElem? found)]
    exact placeOrder_follows_sizing market inBase
  have permitted := permitted follows turns step member
  obtain ⟨before, caller, op, fate⟩ := step
  subst isOrder
  exact permitted

end Placing

end GdslExchange.Orders
