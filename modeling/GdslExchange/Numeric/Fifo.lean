/-
This file takes an amount from the lots of a list, the oldest first: each lot
gives what it holds until the amount is reached. The lots hold an amount of
which none is negative.
-/

import Mathlib.Algebra.BigOperators.Group.List.Basic
import Mathlib.Algebra.Order.BigOperators.Group.List
import Mathlib.Algebra.Order.Group.MinMax
import Mathlib.Algebra.Order.Ring.Defs

namespace Numeric

section Fifo

variable {Amount Lot : Type} [AddCommGroup Amount] [LinearOrder Amount] [IsOrderedAddMonoid Amount]
  (held : Lot → Amount)

def consume : List Lot → Amount → List (Lot × Amount)
  | [], _ => []
  | lot :: rest, amount =>
    (lot, min (held lot) amount) :: consume rest (amount - min (held lot) amount)

variable {held} {lots : List Lot} {amount : Amount}

omit [IsOrderedAddMonoid Amount] in
theorem mem_of_mem_consume {given : Lot × Amount} (member : given ∈ consume held lots amount) :
    given.1 ∈ lots := by
  induction lots generalizing amount with
  | nil => cases member
  | cons lot rest inductionHypothesis =>
    rcases List.mem_cons.mp member with rfl | later
    · exact List.mem_cons_self
    · exact List.mem_cons_of_mem _ (inductionHypothesis later)

omit [IsOrderedAddMonoid Amount] in
/-- No lot gives more than it holds. -/
theorem consume_le {given : Lot × Amount} (member : given ∈ consume held lots amount) :
    given.2 ≤ held given.1 := by
  induction lots generalizing amount with
  | nil => cases member
  | cons lot rest inductionHypothesis =>
    rcases List.mem_cons.mp member with rfl | later
    · exact min_le_left _ _
    · exact inductionHypothesis later

omit [IsOrderedAddMonoid Amount] in
/-- Nothing is taken of any lot for nothing. -/
theorem consume_zero (nonneg : ∀ lot ∈ lots, 0 ≤ held lot) :
    consume held lots 0 = lots.map fun lot => (lot, 0) := by
  induction lots with
  | nil => rfl
  | cons lot rest inductionHypothesis =>
    unfold consume
    rw [min_eq_right (nonneg lot List.mem_cons_self), sub_zero,
      inductionHypothesis fun other member => nonneg other (List.mem_cons_of_mem _ member),
      List.map_cons]

section Nonneg

variable (nonneg : ∀ lot ∈ lots, 0 ≤ held lot) (enough : 0 ≤ amount)
include nonneg enough

theorem consume_nonneg {given : Lot × Amount} (member : given ∈ consume held lots amount) :
    0 ≤ given.2 := by
  induction lots generalizing amount with
  | nil => cases member
  | cons lot rest inductionHypothesis =>
    rcases List.mem_cons.mp member with rfl | later
    · exact le_min (nonneg lot List.mem_cons_self) enough
    · exact inductionHypothesis (fun other inRest => nonneg other (List.mem_cons_of_mem _ inRest))
        (sub_nonneg.mpr (min_le_right _ _)) later

/-- Together they give the amount, or all they hold. -/
theorem sum_consume :
    ((consume held lots amount).map Prod.snd).sum = min (lots.map held).sum amount := by
  induction lots generalizing amount with
  | nil => exact (min_eq_left enough).symm
  | cons lot rest inductionHypothesis =>
    have left : 0 ≤ amount - min (held lot) amount := sub_nonneg.mpr (min_le_right _ _)
    have others := inductionHypothesis
      (fun other member => nonneg other (List.mem_cons_of_mem _ member)) left
    simp only [consume, List.map_cons, List.sum_cons, others, ← min_add_add_left,
      add_sub_cancel]
    rcases le_total (held lot) amount with within | beyond
    · rw [min_eq_left within]
    · rw [min_eq_right beyond, min_eq_right, min_eq_right]
      · refine beyond.trans (le_add_of_nonneg_right (List.sum_nonneg fun value member => ?_))
        obtain ⟨other, inRest, rfl⟩ := List.mem_map.mp member
        exact nonneg other (List.mem_cons_of_mem _ inRest)
      · refine le_add_of_nonneg_right (List.sum_nonneg fun value member => ?_)
        obtain ⟨other, inRest, rfl⟩ := List.mem_map.mp member
        exact nonneg other (List.mem_cons_of_mem _ inRest)

omit enough in
theorem consume_eq_of_le (covers : (lots.map held).sum ≤ amount) :
    consume held lots amount = lots.map fun lot => (lot, held lot) := by
  induction lots generalizing amount with
  | nil => rfl
  | cons lot rest inductionHypothesis =>
    have others : 0 ≤ (rest.map held).sum := by
      refine List.sum_nonneg fun value member => ?_
      obtain ⟨other, inRest, rfl⟩ := List.mem_map.mp member
      exact nonneg other (List.mem_cons_of_mem _ inRest)
    rw [List.map_cons, List.sum_cons] at covers
    have within : held lot ≤ amount := (le_add_of_nonneg_right others).trans covers
    simp only [consume, List.map_cons, min_eq_left within]
    rw [inductionHypothesis (fun other member => nonneg other (List.mem_cons_of_mem _ member))
      (le_sub_iff_add_le'.mpr covers)]

theorem consume_all_iff : (∀ given ∈ consume held lots amount, given.2 = held given.1) ↔
    (lots.map held).sum ≤ amount := by
  constructor
  · intro full
    have sameLots : (consume held lots amount).map (fun given => held given.1) =
        lots.map held := by
      clear full nonneg enough
      induction lots generalizing amount with
      | nil => rfl
      | cons lot rest inductionHypothesis =>
        exact congrArg (held lot :: ·) inductionHypothesis
    rw [← min_eq_left_iff, ← sum_consume nonneg enough, List.map_congr_left full, sameLots]
  · intro covers given member
    rw [consume_eq_of_le nonneg covers] at member
    obtain ⟨lot, _, rfl⟩ := List.mem_map.mp member
    rfl

end Nonneg

end Fifo

/-! ### The cost of what is taken -/

section Cost

variable {Amount Lot : Type} [CommRing Amount] [LinearOrder Amount] [IsStrictOrderedRing Amount]
  (held price : Lot → Amount)

/-- What an amount costs, each lot at its own price. -/
def cost (lots : List Lot) (amount : Amount) : Amount :=
  ((consume held lots amount).map fun given => given.2 * price given.1).sum

variable {held price} {lots : List Lot} {lot : Lot} {amount : Amount}

omit [IsStrictOrderedRing Amount] in
theorem cost_cons : cost held price (lot :: lots) amount =
    min (held lot) amount * price lot + cost held price lots (amount - min (held lot) amount) := by
  simp only [cost, consume, List.map_cons, List.sum_cons]

omit [IsStrictOrderedRing Amount] in
theorem cost_zero (nonneg : ∀ lot ∈ lots, 0 ≤ held lot) : cost held price lots 0 = 0 := by
  unfold cost
  rw [consume_zero nonneg, List.map_map]
  refine List.sum_eq_zero fun value member => ?_
  obtain ⟨lot, _, rfl⟩ := List.mem_map.mp member
  exact zero_mul _

omit [IsStrictOrderedRing Amount] in
theorem cost_oldest (nonneg : ∀ lot ∈ lots, 0 ≤ held lot) :
    cost held price (lot :: lots) (held lot) = held lot * price lot := by
  rw [cost_cons, min_self, sub_self, cost_zero nonneg, add_zero]

section Priced

variable (nonneg : ∀ lot ∈ lots, 0 ≤ held lot) (priced : ∀ lot ∈ lots, 0 < price lot)
include nonneg priced

theorem cost_lt {more : Amount} (start : 0 ≤ amount) (less : amount < more)
    (covered : more ≤ (lots.map held).sum) :
    cost held price lots amount < cost held price lots more := by
  induction lots generalizing amount more with
  | nil => exact absurd (start.trans_lt less) covered.not_gt
  | cons lot rest inductionHypothesis =>
    have others : ∀ other ∈ rest, 0 ≤ held other :=
      fun other member => nonneg other (List.mem_cons_of_mem _ member)
    have othersPriced : ∀ other ∈ rest, 0 < price other :=
      fun other member => priced other (List.mem_cons_of_mem _ member)
    have isPriced := priced lot List.mem_cons_self
    rw [List.map_cons, List.sum_cons] at covered
    rw [cost_cons, cost_cons]
    rcases le_total more (held lot) with within | beyond
    · rw [min_eq_right within, min_eq_right (less.le.trans within), sub_self, sub_self]
      exact add_lt_add_left (mul_lt_mul_of_pos_right less isPriced) _
    · rw [min_eq_left beyond]
      rcases le_or_gt amount (held lot) with small | large
      · rw [min_eq_right small, sub_self]
        rcases small.eq_or_lt with rfl | short
        · refine add_lt_add_right ?_ _
          exact inductionHypothesis others othersPriced le_rfl (sub_pos.mpr less)
            (sub_le_iff_le_add'.mpr covered)
        · refine add_lt_add_of_lt_of_le (mul_lt_mul_of_pos_right short isPriced) ?_
          rcases (sub_nonneg.mpr beyond).eq_or_lt with none | some
          · rw [← none]
          · exact (inductionHypothesis others othersPriced le_rfl some
              (sub_le_iff_le_add'.mpr covered)).le
      · rw [min_eq_left large.le]
        refine add_lt_add_right (inductionHypothesis others othersPriced ?_ ?_ ?_) _
        · exact sub_nonneg.mpr large.le
        · exact sub_lt_sub_right less _
        · exact sub_le_iff_le_add'.mpr covered

theorem cost_inj {other : Amount} (start : 0 ≤ amount) (covered : amount ≤ (lots.map held).sum)
    (otherStart : 0 ≤ other) (otherCovered : other ≤ (lots.map held).sum) :
    cost held price lots amount = cost held price lots other ↔ amount = other := by
  constructor
  · intro same
    rcases lt_trichotomy amount other with less | equal | more
    · exact absurd same (cost_lt nonneg priced start less otherCovered).ne
    · exact equal
    · exact absurd same (cost_lt nonneg priced otherStart more covered).ne'
  · rintro rfl
    rfl

end Priced

end Cost

end Numeric
