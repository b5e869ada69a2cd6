/-
This file bounds the total of one list by that of another which covers it: each
item that weighs anything has an entry of its own, found by a label, that
carries at least its weight.
-/

import Mathlib.Algebra.BigOperators.Group.List.Basic
import Mathlib.Algebra.Order.BigOperators.Group.List
import Mathlib.Data.List.FinRange

namespace Numeric

section Cover

variable {Amount Item Label Entry : Type} [AddCommMonoid Amount] [PartialOrder Amount]
  [IsOrderedAddMonoid Amount] [DecidableEq Entry] {label : Item → Label} {weight : Item → Amount}
  {named : Entry → Label} {value : Entry → Amount}

theorem sum_le_sum_of_covered (injective : Function.Injective label) {items : List Item}
    {entries : List Entry} (distinct : items.Nodup)
    (nonneg : ∀ entry ∈ entries, 0 ≤ value entry)
    (covered : ∀ item ∈ items, weight item = 0 ∨
      ∃ entry ∈ entries, named entry = label item ∧ weight item ≤ value entry) :
    (items.map weight).sum ≤ (entries.map value).sum := by
  induction items generalizing entries with
  | nil =>
    refine List.sum_nonneg fun amount member => ?_
    obtain ⟨entry, inEntries, rfl⟩ := List.mem_map.mp member
    exact nonneg entry inEntries
  | cons first rest inductionHypothesis =>
    rw [List.nodup_cons] at distinct
    rw [List.map_cons, List.sum_cons]
    rcases covered first List.mem_cons_self with weightless | ⟨entry, member, isFirst, carries⟩
    · rw [weightless, zero_add]
      exact inductionHypothesis distinct.2 nonneg fun item inRest =>
        covered item (List.mem_cons_of_mem _ inRest)
    · have others := @inductionHypothesis (entries.erase entry) distinct.2
        (fun other inRest => nonneg other (List.mem_of_mem_erase inRest)) fun item inRest => by
          rcases covered item (List.mem_cons_of_mem _ inRest) with weightless |
            ⟨other, inEntries, isItem, enough⟩
          · exact Or.inl weightless
          · refine Or.inr ⟨other, (List.mem_erase_of_ne fun same => ?_).mpr inEntries, isItem,
              enough⟩
            rw [same, isFirst] at isItem
            rw [injective isItem] at distinct
            exact distinct.1 inRest
      have split : (entries.map value).sum =
          value entry + ((entries.erase entry).map value).sum := by
        rw [← List.sum_cons, ← List.map_cons]
        exact ((List.perm_cons_erase member).map value).sum_eq
      rw [split]
      exact add_le_add carries others

theorem sum_le_sum_of_positions {items : List Item} {entries : List Entry}
    {position : Entry → ℕ} (nonneg : ∀ entry ∈ entries, 0 ≤ value entry)
    (covered : ∀ id item, items[id]? = some item → weight item = 0 ∨
      ∃ entry ∈ entries, position entry = id ∧ weight item ≤ value entry) :
    (items.map weight).sum ≤ (entries.map value).sum := by
  have positions : items.map weight =
      (List.finRange items.length).map fun id => weight (items.get id) := by
    conv_lhs => rw [← List.map_get_finRange items]
    rw [List.map_map]
    rfl
  rw [positions]
  exact sum_le_sum_of_covered Fin.val_injective (List.nodup_finRange _) nonneg fun id _ =>
    covered id (items.get id) (List.getElem?_eq_getElem id.isLt)

end Cover

end Numeric
