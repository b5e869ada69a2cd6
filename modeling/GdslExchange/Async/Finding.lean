/-
This file is about programs that ask before they act: they leave the state as it is until they
have found what they go on with, and fail where there is nothing to find.
-/

import GdslExchange.Async.Program

namespace Async

namespace Program

variable {service : Service} {Value Next Item : Type} (fates : (op : service.Op) → service.Fate op)
  (state : service.State)

/-- A program that does nothing but ask: it returns the one answer, or it fails where there is
none. -/
def Asks (program : Program service Value) (answers : Value → Prop) : Prop :=
  (∃ value, (∀ other, answers other ↔ other = value) ∧
    program.exec fates state = (state, .ok value)) ∨
  (∀ value, ¬ answers value) ∧ ∃ failure, program.exec fates state = (state, .error failure)

/-- A program finds an item, with which its run ends as it should, or it fails where there is no
item to find and leaves the state as it is. -/
def Finds (program : Program service Value) (found : Item → Prop)
    (ends : Item → service.State × Except service.Failure Value → Prop) : Prop :=
  (∃ item, found item ∧ ends item (program.exec fates state)) ∨
  (∀ item, ¬ found item) ∧ ∃ failure, program.exec fates state = (state, .error failure)

variable {fates state} {program : Program service Value} {found : Item → Prop}
  {ends : Item → service.State × Except service.Failure Value → Prop}

/-! ### Asking -/

theorem asks_of_exec {value : Value} (returned : program.exec fates state = (state, .ok value)) :
    program.Asks fates state fun other => other = value :=
  .inl ⟨value, fun _ => Iff.rfl, returned⟩

variable {answers : Value → Prop} {first : Program service Next}
  {rest : Next → Program service Value}

/-- Asking what is answered anyway changes nothing. -/
theorem asks_bind_of_exec {value : Next} (returned : first.exec fates state = (state, .ok value))
    (asks : (rest value).Asks fates state answers) : (first >>= rest).Asks fates state answers := by
  unfold Asks
  rwa [exec_bind_ok returned]

theorem asks_perform {op : service.Op} {answer : Except service.Failure (service.Result op)}
    (kept : service.perform op (fates op) state = (state, answer)) :
    (perform op).Asks fates state fun value => answer = .ok value := by
  have ran := (exec_perform op state).trans kept
  cases answer with
  | error failure => exact .inr ⟨by simp, failure, ran⟩
  | ok value => exact .inl ⟨value, by simp [eq_comm], ran⟩

theorem asks_orThrow (value : Option Value) (failure : service.Failure) :
    (orThrow value failure : Program service Value).Asks fates state fun other =>
      value = some other := by
  cases value with
  | none => exact .inr ⟨by simp, failure, rfl⟩
  | some value => exact .inl ⟨value, by simp [eq_comm], rfl⟩

theorem asks_ofExcept (value : Except service.Failure Value) :
    (ofExcept value : Program service Value).Asks fates state fun other => value = .ok other := by
  cases value with
  | error failure => exact .inr ⟨by simp, failure, rfl⟩
  | ok value => exact .inl ⟨value, by simp [eq_comm], rfl⟩

theorem asks_throwIf (condition : Prop) [Decidable condition] (failure : service.Failure) :
    (throwIf condition failure : Program service Unit).Asks fates state fun _ => ¬ condition := by
  unfold throwIf
  split
  · next holds => exact .inr ⟨fun _ fails => fails holds, failure, rfl⟩
  · next fails => exact .inl ⟨(), fun _ => ⟨fun _ => rfl, fun _ => fails⟩, rfl⟩

theorem Asks.congr {wanted : Value → Prop} (asks : program.Asks fates state answers)
    (same : ∀ value, answers value ↔ wanted value) : program.Asks fates state wanted := by
  rwa [← funext fun value => propext (same value)]

theorem Asks.returns (asks : program.Asks fates state answers) {value : Value}
    (answered : answers value) :
    program.exec fates state = (state, .ok value) := by
  obtain ⟨other, only, returned⟩ | ⟨silent, -⟩ := asks
  · rwa [(only value).mp answered]
  · exact absurd answered (silent value)

theorem Asks.fails (asks : program.Asks fates state answers) (silent : ∀ value, ¬ answers value) :
    ∃ failure, program.exec fates state = (state, .error failure) := by
  obtain ⟨value, only, -⟩ | ⟨-, failed⟩ := asks
  · exact absurd ((only value).mpr rfl) (silent value)
  · exact failed

/-! ### What is found -/

theorem Finds.congr {wanted : Item → Prop} (finds : program.Finds fates state found ends)
    (same : ∀ item, found item ↔ wanted item) : program.Finds fates state wanted ends := by
  rwa [← funext fun item => propext (same item)]

theorem finds_of_exec {item : Item} (only : ∀ other, found other ↔ other = item)
    (ended : ends item (program.exec fates state)) : program.Finds fates state found ends :=
  .inl ⟨item, (only item).mpr rfl, ended⟩

theorem Asks.finds {answers : Next → Prop} {later : Next → Item → Prop}
    (asks : first.Asks fates state answers)
    (finds : ∀ value, answers value → (rest value).Finds fates state (later value) ends) :
    (first >>= rest).Finds fates state (fun item => ∃ value, answers value ∧ later value item)
      ends := by
  unfold Finds
  obtain ⟨value, only, returned⟩ | ⟨silent, failure, thrown⟩ := asks
  · rw [exec_bind_ok returned]
    obtain ⟨item, isFound, ended⟩ | ⟨nothing, failed⟩ := finds value ((only value).mpr rfl)
    · exact .inl ⟨item, ⟨value, (only value).mpr rfl, isFound⟩, ended⟩
    · refine .inr ⟨?_, failed⟩
      rintro item ⟨other, answered, isFound⟩
      rw [(only other).mp answered] at isFound
      exact nothing item isFound
  · refine .inr ⟨?_, failure, exec_bind_error thrown⟩
    rintro item ⟨value, answered, _⟩
    exact silent value answered

theorem Asks.bind {answers : Next → Prop} {later : Next → Value → Prop}
    (asks : first.Asks fates state answers)
    (finds : ∀ value, answers value → (rest value).Asks fates state (later value)) :
    (first >>= rest).Asks fates state fun last => ∃ value, answers value ∧ later value last := by
  unfold Asks
  obtain ⟨value, only, returned⟩ | ⟨silent, failure, thrown⟩ := asks
  · have isAnswer := (only value).mpr rfl
    have same (last : Value) : (∃ value, answers value ∧ later value last) ↔ later value last := by
      constructor
      · rintro ⟨other, answered, isLast⟩
        rwa [(only other).mp answered] at isLast
      · exact fun isLast => ⟨value, isAnswer, isLast⟩
    simp only [same, exec_bind_ok returned]
    exact finds value isAnswer
  · refine .inr ⟨?_, failure, exec_bind_error thrown⟩
    rintro last ⟨value, answered, _⟩
    exact silent value answered

end Program

end Async
