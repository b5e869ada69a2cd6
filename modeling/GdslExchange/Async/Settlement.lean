/-
This file is about writes that come in pairs: an entry is posted by a caller, who
then owes a second write that settles it. As long as no key is posted twice, every
key is settled at most once, and whenever nobody owes anything the posted entries
are the settled ones.
-/

import Mathlib.Algebra.BigOperators.Group.List.Basic
import Mathlib.Data.List.Nodup
import Mathlib.Logic.Function.Basic

namespace Async

variable {Caller Key Amount : Type} {owes : Caller → Option (Key × Amount)}
  {posted settled : List (Key × Amount)}

/-- Every posted entry has been settled, or is owed by one caller. -/
structure Settlement (owes : Caller → Option (Key × Amount))
    (posted settled : List (Key × Amount)) : Prop where
  postedOnce : (posted.map Prod.fst).Nodup
  settledOnce : (settled.map Prod.fst).Nodup
  settled_subset : settled ⊆ posted
  settled_or_owed : ∀ entry ∈ posted, entry ∈ settled ∨ ∃ caller, owes caller = some entry
  owed_posted : ∀ caller entry, owes caller = some entry → entry ∈ posted
  owed_unsettled : ∀ caller entry, owes caller = some entry → entry.1 ∉ settled.map Prod.fst
  debtor : ∀ first second entry, owes first = some entry → owes second = some entry →
    first = second

namespace Settlement

/-- Nothing has been posted yet. -/
theorem start (idle : ∀ caller, owes caller = none) : Settlement owes [] [] where
  postedOnce := List.nodup_nil
  settledOnce := List.nodup_nil
  settled_subset := List.Subset.refl []
  settled_or_owed _ member := (List.not_mem_nil member).elim
  owed_posted caller entry owing := by
    rw [idle caller] at owing
    cases owing
  owed_unsettled _ _ _ := List.not_mem_nil
  debtor first _ entry owing _ := by
    rw [idle first] at owing
    cases owing

variable [DecidableEq Caller] {caller : Caller} {entry : Key × Amount}

theorem update_eq_some {debt : Option (Key × Amount)} {other : Caller} {owed : Key × Amount}
    (owing : Function.update owes caller debt other = some owed) :
    other = caller ∧ debt = some owed ∨ other ≠ caller ∧ owes other = some owed := by
  by_cases same : other = caller
  · rw [same, Function.update_self] at owing
    exact Or.inl ⟨same, owing⟩
  · rw [Function.update_of_ne same] at owing
    exact Or.inr ⟨same, owing⟩

theorem post (settlement : Settlement owes posted settled) (idle : owes caller = none)
    (fresh : entry.1 ∉ posted.map Prod.fst) :
    Settlement (Function.update owes caller (some entry)) (entry :: posted) settled := by
  have unsettled : entry.1 ∉ settled.map Prod.fst := fun member =>
    fresh (List.map_subset Prod.fst settlement.settled_subset member)
  refine ⟨List.nodup_cons.mpr ⟨fresh, settlement.postedOnce⟩, settlement.settledOnce,
    List.subset_cons_of_subset entry settlement.settled_subset, ?_, ?_, ?_, ?_⟩
  · intro other member
    obtain rfl | earlier := List.mem_cons.mp member
    · exact Or.inr ⟨caller, Function.update_self ..⟩
    · refine (settlement.settled_or_owed other earlier).imp_right fun ⟨debtor, owing⟩ => ?_
      refine ⟨debtor, ?_⟩
      rw [Function.update_of_ne]
      · exact owing
      · intro same
        rw [same, idle] at owing
        cases owing
  · intro other owed owing
    obtain ⟨-, isEntry⟩ | ⟨-, owing⟩ := update_eq_some owing
    · cases isEntry
      exact List.mem_cons_self
    · exact List.mem_cons_of_mem _ (settlement.owed_posted other owed owing)
  · intro other owed owing
    obtain ⟨-, isEntry⟩ | ⟨-, owing⟩ := update_eq_some owing
    · cases isEntry
      exact unsettled
    · exact settlement.owed_unsettled other owed owing
  · intro first second owed owingFirst owingSecond
    have posted : ∀ other, owes other ≠ some entry := fun other owing =>
      fresh (List.mem_map_of_mem (settlement.owed_posted other entry owing))
    obtain ⟨isFirst, isEntry⟩ | ⟨-, owingFirst⟩ := update_eq_some owingFirst
    · cases isEntry
      obtain ⟨isSecond, -⟩ | ⟨-, owingSecond⟩ := update_eq_some owingSecond
      · rw [isFirst, isSecond]
      · exact absurd owingSecond (posted second)
    · obtain ⟨-, isEntry⟩ | ⟨-, owingSecond⟩ := update_eq_some owingSecond
      · cases isEntry
        exact absurd owingFirst (posted first)
      · exact settlement.debtor first second owed owingFirst owingSecond

theorem settle (settlement : Settlement owes posted settled) (owing : owes caller = some entry) :
    Settlement (Function.update owes caller none) posted (entry :: settled) := by
  have remaining : ∀ {other owed}, Function.update owes caller none other = some owed →
      other ≠ caller ∧ owes other = some owed := by
    intro other owed still
    obtain ⟨-, impossible⟩ | remains := update_eq_some still
    · cases impossible
    · exact remains
  refine ⟨settlement.postedOnce, List.nodup_cons.mpr
    ⟨settlement.owed_unsettled caller entry owing, settlement.settledOnce⟩, ?_, ?_, ?_, ?_, ?_⟩
  · exact List.cons_subset.mpr
      ⟨settlement.owed_posted caller entry owing, settlement.settled_subset⟩
  · intro other member
    obtain settledBefore | ⟨debtor, owed⟩ := settlement.settled_or_owed other member
    · exact Or.inl (List.mem_cons_of_mem _ settledBefore)
    · by_cases same : debtor = caller
      · rw [same, owing] at owed
        cases owed
        exact Or.inl List.mem_cons_self
      · refine Or.inr ⟨debtor, ?_⟩
        rw [Function.update_of_ne same]
        exact owed
  · intro other owed still
    exact settlement.owed_posted other owed (remaining still).2
  · intro other owed still
    obtain ⟨different, owingOther⟩ := remaining still
    refine List.not_mem_cons_of_ne_of_not_mem (fun sameKey => different ?_)
      (settlement.owed_unsettled other owed owingOther)
    have sameEntry : owed = entry :=
      List.inj_on_of_nodup_map settlement.postedOnce
        (settlement.owed_posted other owed owingOther)
        (settlement.owed_posted caller entry owing) sameKey
    rw [sameEntry] at owingOther
    exact settlement.debtor other caller entry owingOther owing
  · intro first second owed owingFirst owingSecond
    exact settlement.debtor first second owed (remaining owingFirst).2 (remaining owingSecond).2

omit [DecidableEq Caller] in
theorem perm_of_idle (settlement : Settlement owes posted settled)
    (idle : ∀ caller, owes caller = none) : posted.Perm settled := by
  refine (List.perm_ext_iff_of_nodup (settlement.postedOnce.of_map _)
    (settlement.settledOnce.of_map _)).mpr fun entry =>
      ⟨fun member => ?_, fun member => settlement.settled_subset member⟩
  obtain isSettled | ⟨caller, owing⟩ := settlement.settled_or_owed entry member
  · exact isSettled
  · rw [idle caller] at owing
    cases owing

omit [DecidableEq Caller] in
theorem sum_eq_of_idle [AddCommMonoid Amount] (settlement : Settlement owes posted settled)
    (idle : ∀ caller, owes caller = none) :
    (posted.map Prod.snd).sum = (settled.map Prod.snd).sum :=
  ((settlement.perm_of_idle idle).map Prod.snd).sum_eq

end Settlement

end Async
