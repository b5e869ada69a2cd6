/-
This file is about the operations of an uninterrupted run: those of a sequence are those of its
first part, and then those of its second.
-/

import GdslExchange.Async.Finding

namespace Async

namespace Program

variable {service : Service} {Value Next : Type} {fates : (op : service.Op) → service.Fate op}
  {state : service.State} {op : service.Op}

/-- The operations of a run are those that its program may await. -/
theorem Only.of_mem_trace {permitted : service.Op → Prop} {program : Program service Value}
    (only : program.Only permitted) (member : op ∈ program.trace fates state) : permitted op := by
  induction program generalizing state with
  | done value => cases member
  | failed failure => cases member
  | await awaited resume inductionHypothesis =>
    obtain rfl | later := List.mem_cons.mp member
    · exact only.1
    · exact inductionHypothesis _ (only.2 _) later

theorem mem_trace_bind_cases {program : Program service Value}
    {next : Value → Program service Next} (member : op ∈ (program >>= next).trace fates state) :
    op ∈ program.trace fates state ∨ ∃ reached value,
      program.exec fates state = (reached, .ok value) ∧ op ∈ (next value).trace fates reached := by
  induction program generalizing state with
  | done value => exact .inr ⟨state, value, rfl, member⟩
  | failed failure => cases member
  | await awaited resume inductionHypothesis =>
    obtain rfl | later := List.mem_cons.mp member
    · exact .inl List.mem_cons_self
    · obtain first | second := inductionHypothesis _ later
      · exact .inl (List.mem_cons_of_mem _ first)
      · exact .inr second

theorem mem_trace_recover_cases {body : Program service Value}
    {handler : service.Failure → Program service Value}
    (member : op ∈ (body.recover handler).trace fates state) :
    op ∈ body.trace fates state ∨ ∃ reached failure,
      body.exec fates state = (reached, .error failure) ∧
        op ∈ (handler failure).trace fates reached := by
  induction body generalizing state with
  | done value => cases member
  | failed failure => exact .inr ⟨state, failure, rfl, member⟩
  | await awaited resume inductionHypothesis =>
    obtain rfl | later := List.mem_cons.mp member
    · exact .inl List.mem_cons_self
    · obtain first | second := inductionHypothesis _ later
      · exact .inl (List.mem_cons_of_mem _ first)
      · exact .inr second

variable {permitted : service.Op → Prop}

/-- An operation that the first part never awaits belongs to the second. -/
theorem mem_trace_second {program : Program service Value} {next : Value → Program service Next}
    (only : program.Only permitted) (never : ¬ permitted op)
    (member : op ∈ (program >>= next).trace fates state) : ∃ reached value,
      program.exec fates state = (reached, .ok value) ∧ op ∈ (next value).trace fates reached := by
  obtain first | second := mem_trace_bind_cases member
  · exact absurd (only.of_mem_trace first) never
  · exact second

/-- An operation that the second part never awaits belongs to the first. -/
theorem mem_trace_first {program : Program service Value} {next : Value → Program service Next}
    (only : ∀ value, (next value).Only permitted) (never : ¬ permitted op)
    (member : op ∈ (program >>= next).trace fates state) : op ∈ program.trace fates state := by
  obtain first | ⟨reached, value, -, second⟩ := mem_trace_bind_cases member
  · exact first
  · exact absurd ((only value).of_mem_trace second) never

theorem Asks.mem_trace_iff {answers : Value → Prop} {program : Program service Value}
    {next : Value → Program service Next} (asks : program.Asks fates state answers)
    (only : program.Only permitted) (never : ¬ permitted op) :
    op ∈ (program >>= next).trace fates state ↔
      ∃ value, answers value ∧ op ∈ (next value).trace fates state := by
  constructor
  · intro member
    obtain ⟨reached, value, returned, later⟩ := mem_trace_second only never member
    obtain ⟨answer, isAnswer, answered⟩ | ⟨silent, failure, thrown⟩ := asks
    · obtain ⟨rfl, isValue⟩ := Prod.mk.inj (answered.symm.trans returned)
      obtain rfl := Except.ok.inj isValue
      exact ⟨_, (isAnswer _).mpr rfl, later⟩
    · cases thrown.symm.trans returned
  · rintro ⟨value, answered, member⟩
    exact mem_trace_bind_ok (asks.returns answered) member

/-! ### The operations of a kind -/

section Kind

variable {isKind : service.Op → Bool} {reached : service.State}

/-- A run has an operation of a kind. -/
def Has (fates : (op : service.Op) → service.Fate op) (isKind : service.Op → Bool)
    (program : Program service Value) (state : service.State) : Prop :=
  ∃ op ∈ program.trace fates state, isKind op = true

instance (program : Program service Value) : Decidable (program.Has fates isKind state) :=
  inferInstanceAs (Decidable (∃ op ∈ _, _))

variable {program : Program service Value} {next : Value → Program service Next}

variable {value : Value}

theorem not_has_done :
    ¬ (done value : Program service Value).Has fates isKind state := by
  rintro ⟨op, member, -⟩
  cases member

theorem has_perform (isOne : isKind op = true) :
    (perform op : Program service _).Has fates isKind state :=
  ⟨op, List.mem_cons_self, isOne⟩

theorem not_has_perform (isNone : isKind op = false) :
    ¬ (perform op : Program service _).Has fates isKind state := by
  rintro ⟨other, member, isOne⟩
  obtain rfl | later := List.mem_cons.mp member
  · exact Bool.false_ne_true (isNone.symm.trans isOne)
  · rcases answered : (service.perform op (fates op) state).2 with failure | result
    · rw [answered] at later
      cases later
    · rw [answered] at later
      cases later

theorem has_bind (first : program.Has fates isKind state) :
    (program >>= next).Has fates isKind state :=
  first.imp fun _ both => ⟨mem_trace_bind both.1, both.2⟩

theorem has_bind_ok (returned : program.exec fates state = (reached, .ok value))
    (second : (next value).Has fates isKind reached) : (program >>= next).Has fates isKind state :=
  second.imp fun _ both => ⟨mem_trace_bind_ok returned both.1, both.2⟩

theorem not_has_bind_error {failure : service.Failure}
    (thrown : program.exec fates state = (reached, .error failure))
    (first : ¬ program.Has fates isKind state) : ¬ (program >>= next).Has fates isKind state := by
  rintro ⟨op, member, isOne⟩
  obtain early | ⟨between, value, returned, -⟩ := mem_trace_bind_cases member
  · exact first ⟨op, early, isOne⟩
  · cases thrown.symm.trans returned

theorem has_recover_done {body : Program service Value} {value : service.Failure → Value} :
    (body.recover fun failure => done (value failure)).Has fates isKind state ↔
      body.Has fates isKind state := by
  constructor
  · rintro ⟨op, member, isOne⟩
    obtain first | ⟨reached, failure, -, second⟩ := mem_trace_recover_cases member
    · exact ⟨op, first, isOne⟩
    · cases second
  · exact Exists.imp fun _ both => ⟨mem_trace_recover both.1, both.2⟩

/-- A run returns and has no operation of the kind. -/
def Passes (fates : (op : service.Op) → service.Fate op) (isKind : service.Op → Bool)
    (program : Program service Value) (state reached : service.State) (value : Value) : Prop :=
  program.exec fates state = (reached, .ok value) ∧ ¬ program.Has fates isKind state

theorem passes_done :
    (done value : Program service Value).Passes fates isKind state state value :=
  ⟨rfl, not_has_done⟩

theorem passes_perform {value : service.Result op} (isNone : isKind op = false)
    (answered : service.perform op (fates op) state = (reached, .ok value)) :
    (perform op : Program service _).Passes fates isKind state reached value :=
  ⟨(exec_perform op state).trans answered, not_has_perform isNone⟩

theorem Passes.not_has_bind (first : program.Passes fates isKind state reached value)
    (second : ¬ (next value).Has fates isKind reached) :
    ¬ (program >>= next).Has fates isKind state := by
  rintro ⟨op, member, isOne⟩
  obtain early | ⟨between, other, again, late⟩ := mem_trace_bind_cases member
  · exact first.2 ⟨op, early, isOne⟩
  · obtain ⟨rfl, isValue⟩ := Prod.mk.inj (again.symm.trans first.1)
    obtain rfl := Except.ok.inj isValue
    exact second ⟨op, late, isOne⟩

theorem Passes.bind {between : service.State} {result : Next}
    (first : program.Passes fates isKind state between value)
    (second : (next value).Passes fates isKind between reached result) :
    (program >>= next).Passes fates isKind state reached result :=
  ⟨(exec_bind_ok first.1).trans second.1, first.not_has_bind second.2⟩

/-- A run has an operation of the kind in one case. In the other it has none, and leaves what is
expected. -/
def HasWhen (fates : (op : service.Op) → service.Fate op) (isKind : service.Op → Bool)
    (program : Program service Value) (state : service.State) (has : Prop)
    (expected : service.State → Prop) : Prop :=
  (has → program.Has fates isKind state) ∧
    (¬ has → ¬ program.Has fates isKind state ∧ expected (program.exec fates state).1)

variable {has : Prop} {expected : service.State → Prop}

theorem HasWhen.iff (program_has : program.HasWhen fates isKind state has expected) :
    program.Has fates isKind state ↔ has :=
  ⟨fun isOne => by_contra fun isCase => (program_has.2 isCase).1 isOne, program_has.1⟩

theorem hasWhen_of_has (isCase : has) (program_has : program.Has fates isKind state) :
    program.HasWhen fates isKind state has expected :=
  ⟨fun _ => program_has, absurd isCase⟩

theorem hasWhen_done (isCase : ¬ has) (left : expected state) :
    (done value : Program service Value).HasWhen fates isKind state has expected :=
  ⟨fun other => absurd other isCase, fun _ => ⟨not_has_done, left⟩⟩

/-- Past a program that returns and has none. -/
theorem Passes.hasWhen_bind (first : program.Passes fates isKind state reached value)
    (rest : (next value).HasWhen fates isKind reached has expected) :
    (program >>= next).HasWhen fates isKind state has expected := by
  refine ⟨fun isCase => has_bind_ok first.1 (rest.1 isCase), fun isCase => ?_⟩
  obtain ⟨none, left⟩ := rest.2 isCase
  refine ⟨first.not_has_bind none, ?_⟩
  rwa [exec_bind_ok first.1]

theorem hasWhen_bind_error {failure : service.Failure}
    (thrown : program.exec fates state = (reached, .error failure))
    (silent : ¬ program.Has fates isKind state) (isCase : ¬ has) (left : expected reached) :
    (program >>= next).HasWhen fates isKind state has expected := by
  refine ⟨fun other => absurd other isCase, fun _ => ⟨not_has_bind_error thrown silent, ?_⟩⟩
  rwa [exec_bind_error thrown]

/-- A run whose failures are forgotten. -/
theorem HasWhen.recover_done {value : service.Failure → Value}
    (body : program.HasWhen fates isKind state has expected) :
    (program.recover fun failure => done (value failure)).HasWhen fates isKind state has
      expected := by
  refine ⟨fun isCase => has_recover_done.mpr (body.1 isCase), fun isCase => ?_⟩
  obtain ⟨silent, left⟩ := body.2 isCase
  refine ⟨fun other => silent (has_recover_done.mp other), ?_⟩
  rw [exec_recover]
  rcases ended : program.exec fates state with ⟨reached, failure | result⟩
  · rwa [ended] at left
  · rwa [ended] at left

end Kind

/-! ### The first operation of a kind -/

section First

variable {isKind : service.Op → Bool}

theorem find?_trace_silent {program : Program service Value}
    (silent : program.Only fun op => isKind op = false) :
    (program.trace fates state).find? isKind = none := by
  refine List.find?_eq_none.mpr fun op member => ?_
  rw [silent.of_mem_trace member]
  exact Bool.false_ne_true

/-- It is the first of the second part where the first part has none. -/
theorem find?_trace_bind {program : Program service Value}
    {next : Value → Program service Next}
    (silent : program.Only fun op => isKind op = false) :
    ((program >>= next).trace fates state).find? isKind = match program.exec fates state with
      | (reached, .ok value) => ((next value).trace fates reached).find? isKind
      | (_, .error _) => none := by
  induction program generalizing state with
  | done value => rfl
  | failed failure => rfl
  | await op resume inductionHypothesis =>
    show (op :: _).find? isKind = _
    rw [List.find?_cons_of_neg (by rw [silent.1]; exact Bool.false_ne_true)]
    exact inductionHypothesis _ (silent.2 _)

/-- It is the first of the first part where the second part has none. -/
theorem find?_trace_bind_first {program : Program service Value}
    {next : Value → Program service Next}
    (silent : ∀ value, (next value).Only fun op => isKind op = false) :
    ((program >>= next).trace fates state).find? isKind =
      (program.trace fates state).find? isKind := by
  induction program generalizing state with
  | done value => exact find?_trace_silent (silent value)
  | failed failure => rfl
  | await op resume inductionHypothesis =>
    show (op :: _).find? isKind = (op :: _).find? isKind
    rw [List.find?_cons, List.find?_cons]
    split
    · rfl
    · exact inductionHypothesis _

variable {body : Program service Value}

theorem find?_trace_recover {handler : service.Failure → Program service Value}
    (silent : ∀ failure, (handler failure).Only fun op => isKind op = false) :
    ((body.recover handler).trace fates state).find? isKind =
      (body.trace fates state).find? isKind := by
  induction body generalizing state with
  | done value => rfl
  | failed failure => exact find?_trace_silent (silent failure)
  | await op resume inductionHypothesis =>
    show (op :: _).find? isKind = (op :: _).find? isKind
    rw [List.find?_cons, List.find?_cons]
    split
    · rfl
    · exact inductionHypothesis _

theorem find?_trace_andFinally {cleanup : Program service Unit}
    (silent : cleanup.Only fun op => isKind op = false) :
    ((body.andFinally cleanup).trace fates state).find? isKind =
      (body.trace fates state).find? isKind := by
  have returns (value : Value) : (cleanup >>= fun _ => (done value : Program service Value)).Only
      fun op => isKind op = false := only_bind silent fun _ => trivial
  have rethrows (failure : service.Failure) :
      (cleanup >>= fun _ => (failed failure : Program service Value)).Only
        fun op => isKind op = false := only_bind silent fun _ => trivial
  exact (find?_trace_bind_first returns).trans (find?_trace_recover rethrows)

theorem find?_trace_recover_silent {handler : service.Failure → Program service Value}
    (silent : body.Only fun op => isKind op = false) :
    ((body.recover handler).trace fates state).find? isKind = match body.exec fates state with
      | (_, .ok _) => none
      | (reached, .error failure) => ((handler failure).trace fates reached).find? isKind := by
  induction body generalizing state with
  | done value => rfl
  | failed failure => rfl
  | await op resume inductionHypothesis =>
    show (op :: _).find? isKind = _
    rw [List.find?_cons_of_neg (by rw [silent.1]; exact Bool.false_ne_true)]
    exact inductionHypothesis _ (silent.2 _)

/-- The first of the first part is the first of the whole. -/
theorem find?_trace_bind_found {program : Program service Value}
    {next : Value → Program service Next}
    (found : (program.trace fates state).find? isKind = some op) :
    ((program >>= next).trace fates state).find? isKind = some op := by
  induction program generalizing state with
  | done value => cases found
  | failed failure => cases found
  | await awaited resume inductionHypothesis =>
    change (awaited :: _).find? isKind = some op at found
    show (awaited :: _).find? isKind = some op
    rw [List.find?_cons] at found ⊢
    split at found
    · exact found
    · exact inductionHypothesis _ found

/-- A run that returns has had an operation of the kind, and the first of them and the value are
as expected. -/
def ReturnsAfter (fates : (op : service.Op) → service.Fate op) (isKind : service.Op → Bool)
    (expected : Value → service.Op → Prop) (program : Program service Value) : Prop :=
  ∀ state reached value, program.exec fates state = (reached, .ok value) →
    ∃ op, (program.trace fates state).find? isKind = some op ∧ expected value op

theorem returnsAfter_silent {expected : Next → service.Op → Prop} {program : Program service Value}
    {next : Value → Program service Next}
    (silent : program.Only fun op => isKind op = false)
    (each : ∀ value, (next value).ReturnsAfter fates isKind expected) :
    (program >>= next).ReturnsAfter fates isKind expected := by
  intro state reached result returned
  obtain ⟨between, value, first, second⟩ := exec_bind_returned returned
  rw [find?_trace_bind silent, first]
  exact each value between reached result second

theorem ReturnsAfter.bind {known : Value → service.Op → Prop} {expected : Next → service.Op → Prop}
    {program : Program service Value} {next : Value → Program service Next}
    (first : program.ReturnsAfter fates isKind known)
    (each : ∀ value op, known value op → (next value).Returns fun result => expected result op) :
    (program >>= next).ReturnsAfter fates isKind expected := by
  intro state reached result returned
  obtain ⟨between, value, isFirst, second⟩ := exec_bind_returned returned
  obtain ⟨op, found, isKnown⟩ := first state between value isFirst
  exact ⟨op, find?_trace_bind_found found, (each value op isKnown).exec second⟩

end First

theorem mem_trace_perform : op ∈ (perform op : Program service _).trace fates state :=
  List.mem_cons_self

end Program

end Async
