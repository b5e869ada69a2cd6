/-
This file is about calls that run alone: what holds when one has returned or thrown, of the state
of its service and of a ghost state that keeps track of its operations.
-/

import GdslExchange.Async.Journal

namespace Async

namespace Program

variable {service : Service} {Value Next Ghost : Type}
  (track : (op : service.Op) → service.Fate op → Ghost → Ghost)
  (fates : (op : service.Op) → service.Fate op)

/-- A run of a call, and of the ghost state beside it. -/
def play : Program service Value → service.State × Ghost →
    (service.State × Ghost) × Except service.Failure Value
  | done value, course => (course, .ok value)
  | failed failure, course => (course, .error failure)
  | await op resume, course =>
    let performed := service.perform op (fates op) course.1
    (resume performed.2).play (performed.1, track op (fates op) course.2)

/-- What holds of the value that a call returns and the states that it leaves, or of the states
that it leaves where it throws. -/
def Meets (program : Program service Value) (post : Value → service.State × Ghost → Prop)
    (thrown : service.State × Ghost → Prop) (course : service.State × Ghost) : Prop :=
  match program.play track fates course with
  | (reached, .ok value) => post value reached
  | (reached, .error _) => thrown reached

variable {track fates} {post : Value → service.State × Ghost → Prop}
  {thrown : service.State × Ghost → Prop} {course : service.State × Ghost}

variable {program : Program service Value}

theorem meets_always {holds : service.State × Ghost → Prop} :
    program.Meets track fates (fun _ => holds) holds course ↔
      holds (program.play track fates course).1 := by
  unfold Meets
  rcases program.play track fates course with ⟨reached, failure | value⟩ <;> rfl

theorem meets_bind {post : Next → service.State × Ghost → Prop}
    {next : Value → Program service Next} :
    (program >>= next).Meets track fates post thrown course ↔
      program.Meets track fates (fun value => (next value).Meets track fates post thrown) thrown
        course := by
  induction program generalizing course with
  | done value => rfl
  | failed failure => rfl
  | await op resume inductionHypothesis => exact inductionHypothesis _

theorem meets_recover {handler : service.Failure → Program service Value} :
    (program.recover handler).Meets track fates post thrown course ↔
      match program.play track fates course with
      | (reached, .ok value) => post value reached
      | (reached, .error failure) =>
        (handler failure).Meets track fates post thrown reached := by
  induction program generalizing course with
  | done value => rfl
  | failed failure => rfl
  | await op resume inductionHypothesis => exact inductionHypothesis _

theorem Meets.mono {stronger : Value → service.State × Ghost → Prop}
    {strongerThrown : service.State × Ghost → Prop}
    (meets : program.Meets track fates stronger strongerThrown course)
    (returns : ∀ value reached, stronger value reached → post value reached)
    (throws : ∀ reached, strongerThrown reached → thrown reached) :
    program.Meets track fates post thrown course := by
  unfold Meets at meets ⊢
  rcases ran : program.play track fates course with ⟨reached, failure | value⟩
  · rw [ran] at meets
    exact throws reached meets
  · rw [ran] at meets
    exact returns value reached meets

theorem Meets.recover {failing : service.State × Ghost → Prop} {program : Program service Value}
    {handler : service.Failure → Program service Value}
    (meets : program.Meets track fates post failing course)
    (caught : ∀ failure reached, failing reached →
      (handler failure).Meets track fates post thrown reached) :
    (program.recover handler).Meets track fates post thrown course := by
  rw [meets_recover]
  unfold Meets at meets
  rcases ran : program.play track fates course with ⟨reached, failure | value⟩
  · rw [ran] at meets
    exact caught failure reached meets
  · rw [ran] at meets
    exact meets

theorem meets_perform {op : service.Op} {post : service.Result op → service.State × Ghost → Prop} :
    (perform op).Meets track fates post thrown course ↔
      match service.perform op (fates op) course.1 with
      | (reached, .ok result) => post result (reached, track op (fates op) course.2)
      | (reached, .error _) => thrown (reached, track op (fates op) course.2) := by
  unfold Meets
  simp only [perform, play]
  rcases service.perform op (fates op) course.1 with ⟨reached, failure | result⟩ <;> rfl

@[simp] theorem meets_pure {value : Value} :
    (pure value : Program service Value).Meets track fates post thrown course ↔
      post value course := Iff.rfl

theorem meets_keeps {permitted : service.Op → Prop} {kept : service.State × Ghost → Prop}
    (each : ∀ op course, permitted op → kept course →
      kept ((service.perform op (fates op) course.1).1, track op (fates op) course.2))
    (only : program.Only permitted) (holds : kept course) :
    program.Meets track fates (fun _ => kept) kept course := by
  induction program generalizing course with
  | done value => exact holds
  | failed failure => exact holds
  | await op resume inductionHypothesis =>
    exact inductionHypothesis _ (only.2 _) (each op course only.1 holds)

end Program

theorem Along.imp {Item State : Type} {step : Item → State → State} {kept : State → Prop}
    {given holds : Item → State → Prop}
    (each : ∀ item state, kept state → given item state →
      holds item state ∧ kept (step item state))
    {items : List Item} {state : State} (isKept : kept state) (along : Along step given items state) :
    Along step holds items state := by
  induction items generalizing state with
  | nil => trivial
  | cons item rest inductionHypothesis =>
    obtain ⟨first, later⟩ := along
    obtain ⟨isHeld, next⟩ := each item state isKept first
    exact ⟨isHeld, inductionHypothesis next later⟩

end Async
