/-
This file defines asynchronous programs and their interleaved runs.

A call runs without interruption up to its next await. There it hands one
operation to the outside world and is suspended until the answer arrives; in
between, any other call may take its turns. What the outside world does with an
operation, and whether it answers with a result or with a failure, is the fate
of that operation: an argument of the turn, so that a statement about every
list of turns is a statement about every interleaving and every pattern of
failures.
-/

import Mathlib.Logic.Function.Basic

namespace Async

/-- The outside world of a family of calls: its state, the operations a call may await, the
result of each, and what an operation does to the state under each of its fates. -/
structure Service where
  State : Type
  Op : Type
  Result : Op → Type
  Failure : Type
  Fate : Op → Type
  perform : (op : Op) → Fate op → State → State × Except Failure (Result op)

/-- The rest of a call: it has returned, it has thrown, or it awaits an operation. -/
inductive Program (service : Service) (Value : Type) : Type where
  | done (value : Value)
  | failed (failure : service.Failure)
  | await (op : service.Op)
      (resume : Except service.Failure (service.Result op) → Program service Value)

namespace Program

variable {service : Service} {Value Next : Type}

/-- Sequencing: a failure of the first program skips the second. -/
def bind : Program service Value → (Value → Program service Next) → Program service Next
  | done value, next => next value
  | failed failure, _ => failed failure
  | await op resume, next => await op fun reply => (resume reply).bind next

instance : Monad (Program service) where
  pure := done
  bind := bind

/-- `try { body } catch (failure) { handler }`. -/
def recover : Program service Value → (service.Failure → Program service Value) →
    Program service Value
  | done value, _ => done value
  | failed failure, handler => handler failure
  | await op resume, handler => await op fun reply => (resume reply).recover handler

def andFinally (body : Program service Value) (cleanup : Program service Unit) :
    Program service Value :=
  recover body (fun failure => cleanup.bind fun _ => failed failure) |>.bind fun value =>
    cleanup.bind fun _ => done value

/-- Hand one operation to the outside world and rethrow its failure. -/
def perform (op : service.Op) : Program service (service.Result op) :=
  await op fun
    | .ok result => done result
    | .error failure => failed failure

def throwIf (condition : Prop) [Decidable condition] (failure : service.Failure) :
    Program service Unit :=
  if condition then failed failure else done ()

/-- The value that is there, or a thrown failure. -/
def orThrow (value : Option Value) (failure : service.Failure) : Program service Value :=
  match value with
  | some present => done present
  | none => failed failure

/-- A computed value, or its failure thrown. -/
def ofExcept (value : Except service.Failure Value) : Program service Value :=
  match value with
  | .ok present => done present
  | .error failure => failed failure

def forEach {Item : Type} (body : Item → Program service Unit) : List Item →
    Program service Unit
  | [] => done ()
  | item :: rest => (body item).bind fun _ => forEach body rest

/-- The uninterrupted run of a program in which the outside world treats equal operations
alike: the state it leaves and how it ends. -/
def exec (fates : (op : service.Op) → service.Fate op) :
    Program service Value → service.State → service.State × Except service.Failure Value
  | done value, state => (state, .ok value)
  | failed failure, state => (state, .error failure)
  | await op resume, state =>
    let answered := service.perform op (fates op) state
    (resume answered.2).exec fates answered.1

/-- The operations of an uninterrupted run, in order. -/
def trace (fates : (op : service.Op) → service.Fate op) :
    Program service Value → service.State → List service.Op
  | done _, _ => []
  | failed _, _ => []
  | await op resume, state =>
    let answered := service.perform op (fates op) state
    op :: (resume answered.2).trace fates answered.1

/-- How a call ended, once it has. -/
def result? : Program service Value → Option (Except service.Failure Value)
  | done value => some (.ok value)
  | failed failure => some (.error failure)
  | await _ _ => none

/-- Every operation the program may await satisfies a predicate. -/
def Only (permitted : service.Op → Prop) : Program service Value → Prop
  | done _ => True
  | failed _ => True
  | await op resume => permitted op ∧ ∀ reply, (resume reply).Only permitted

def Returns (expected : Value → Prop) : Program service Value → Prop
  | done value => expected value
  | failed _ => True
  | await _ resume => ∀ reply, (resume reply).Returns expected

theorem bind_eq (program : Program service Value) (next : Value → Program service Next) :
    (program >>= next) = program.bind next := rfl

theorem bind_assoc {Last : Type} (program : Program service Value)
    (next : Value → Program service Next) (last : Next → Program service Last) :
    (program >>= next) >>= last = program >>= fun value => next value >>= last := by
  induction program with
  | done value => rfl
  | failed failure => rfl
  | await op resume inductionHypothesis => exact congrArg (await op) (funext inductionHypothesis)

theorem bind_pure (program : Program service Value) :
    (program >>= fun value => pure value) = program := by
  induction program with
  | done value => rfl
  | failed failure => rfl
  | await op resume inductionHypothesis => exact congrArg (await op) (funext inductionHypothesis)

/-- What is made of a value is made of it within the `try`. -/
theorem recover_map (body : Program service Value)
    (handler : service.Failure → Program service Value) (change : Value → Next) :
    (body.recover handler >>= fun value => pure (change value)) =
      (body >>= fun value => (pure (change value) : Program service Next)).recover
        fun failure => handler failure >>= fun value => pure (change value) := by
  induction body with
  | done value => rfl
  | failed failure => rfl
  | await op resume inductionHypothesis => exact congrArg (await op) (funext inductionHypothesis)

/-- What is made of a value is made of it before the cleanup. -/
theorem andFinally_map (body : Program service Value) (cleanup : Program service Unit)
    (change : Value → Next) :
    (body.andFinally cleanup >>= fun value => pure (change value)) =
      (body >>= fun value => (pure (change value) : Program service Next)).andFinally cleanup := by
  have rethrows (failure : service.Failure) :
      (cleanup >>= fun _ => (failed failure : Program service Value)) >>=
          (fun value => pure (change value)) =
        cleanup >>= fun _ => (failed failure : Program service Next) := bind_assoc _ _ _
  calc (body.andFinally cleanup >>= fun value => pure (change value))
    _ = body.recover (fun failure => cleanup >>= fun _ => failed failure) >>= fun value =>
          cleanup >>= fun _ => done (change value) := by
        refine (bind_assoc _ _ _).trans ?_
        exact congrArg _ (funext fun value => bind_assoc _ _ _)
    _ = (body.recover (fun failure => cleanup >>= fun _ => failed failure) >>=
          fun value => pure (change value)) >>= fun changed => cleanup >>= fun _ => done changed :=
        (bind_assoc _ (fun value => pure (change value))
          fun changed => cleanup >>= fun _ => done changed).symm
    _ = _ := by
        rw [recover_map]
        simp only [rethrows]
        rfl

variable {program : Program service Value}

theorem returns_bind {expected : Next → Prop} {next : Value → Program service Next}
    (each : ∀ value, (next value).Returns expected) :
    (program >>= next).Returns expected := by
  induction program with
  | done value => exact each value
  | failed failure => trivial
  | await op resume inductionHypothesis => exact fun reply => inductionHypothesis reply

theorem Returns.bind {known : Value → Prop} {expected : Next → Prop}
    {next : Value → Program service Next}
    (first : program.Returns known) (each : ∀ value, known value → (next value).Returns expected) :
    (program >>= next).Returns expected := by
  induction program with
  | done value => exact each value first
  | failed failure => trivial
  | await op resume inductionHypothesis => exact fun reply => inductionHypothesis reply (first reply)

theorem Returns.mono {known expected : Value → Prop}
    (implies : ∀ value, known value → expected value) (always : program.Returns known) :
    program.Returns expected := by
  induction program with
  | done value => exact implies value always
  | failed failure => trivial
  | await op resume inductionHypothesis => exact fun reply => inductionHypothesis _ (always reply)

theorem returns_orThrow {value : Option Value} {failure : service.Failure} :
    (orThrow value failure : Program service Value).Returns fun found => value = some found := by
  cases value with
  | none => trivial
  | some found => exact rfl

theorem returns_ofExcept {value : Except service.Failure Value} :
    (ofExcept value : Program service Value).Returns fun found => value = .ok found := by
  cases value with
  | error failure => trivial
  | ok found => exact rfl

section Exec

variable {fates : (op : service.Op) → service.Fate op}

@[simp] theorem exec_done (value : Value) (state : service.State) :
    (done value : Program service Value).exec fates state = (state, .ok value) := rfl

@[simp] theorem exec_pure (value : Value) (state : service.State) :
    (pure value : Program service Value).exec fates state = (state, .ok value) := rfl

theorem exec_bind (program : Program service Value) (next : Value → Program service Next)
    (state : service.State) :
    (program >>= next).exec fates state = match program.exec fates state with
      | (reached, .ok value) => (next value).exec fates reached
      | (reached, .error failure) => (reached, .error failure) := by
  induction program generalizing state with
  | done value => rfl
  | failed failure => rfl
  | await op resume inductionHypothesis => exact inductionHypothesis _ _

variable {program : Program service Value} {next : Value → Program service Next}
  {state reached : service.State} {value : Value}

theorem exec_bind_ok (returned : program.exec fates state = (reached, .ok value)) :
    (program >>= next).exec fates state = (next value).exec fates reached := by
  rw [exec_bind, returned]

theorem exec_bind_error {failure : service.Failure}
    (thrown : program.exec fates state = (reached, .error failure)) :
    (program >>= next).exec fates state = (reached, .error failure) := by
  rw [exec_bind, thrown]

theorem exec_thenThrow (program : Program service Value) (failure : service.Failure)
    (state : service.State) : ∃ thrown,
    (program >>= fun _ => (failed failure : Program service Next)).exec fates state =
      ((program.exec fates state).1, .error thrown) := by
  rw [exec_bind]
  rcases program.exec fates state with ⟨reached, thrown | value⟩
  · exact ⟨thrown, rfl⟩
  · exact ⟨failure, rfl⟩

/-- A sequence returns only if both of its parts do. -/
theorem exec_bind_returned {result : Next}
    (returned : (program >>= next).exec fates state = (reached, .ok result)) :
    ∃ between value, program.exec fates state = (between, .ok value) ∧
      (next value).exec fates between = (reached, .ok result) := by
  rw [exec_bind] at returned
  rcases first : program.exec fates state with ⟨between, failure | value⟩
  · rw [first] at returned
    cases returned
  · rw [first] at returned
    exact ⟨between, _, rfl, returned⟩

theorem Returns.exec {expected : Value → Prop} {program : Program service Value}
    (always : program.Returns expected) {state reached : service.State} {value : Value}
    (returned : program.exec fates state = (reached, .ok value)) : expected value := by
  induction program generalizing state with
  | done result =>
    cases returned
    exact always
  | failed failure => cases returned
  | await op resume inductionHypothesis => exact inductionHypothesis _ (always _) returned

theorem exec_recover (body : Program service Value)
    (handler : service.Failure → Program service Value) (state : service.State) :
    (body.recover handler).exec fates state = match body.exec fates state with
      | (reached, .ok value) => (reached, .ok value)
      | (reached, .error failure) => (handler failure).exec fates reached := by
  induction body generalizing state with
  | done value => rfl
  | failed failure => rfl
  | await op resume inductionHypothesis => exact inductionHypothesis _ _

theorem mem_trace_bind {op : service.Op} (member : op ∈ program.trace fates state) :
    op ∈ (program >>= next).trace fates state := by
  induction program generalizing state with
  | done value => cases member
  | failed failure => cases member
  | await awaited resume inductionHypothesis =>
    rcases List.mem_cons.mp member with isAwaited | later
    · exact List.mem_cons.mpr (Or.inl isAwaited)
    · exact List.mem_cons.mpr (Or.inr (inductionHypothesis _ later))

theorem mem_trace_bind_ok {op : service.Op}
    (returned : program.exec fates state = (reached, .ok value))
    (member : op ∈ (next value).trace fates reached) :
    op ∈ (program >>= next).trace fates state := by
  induction program generalizing state with
  | done result =>
    cases returned
    exact member
  | failed failure => cases returned
  | await awaited resume inductionHypothesis =>
    exact List.mem_cons.mpr (Or.inr (inductionHypothesis _ returned))

theorem mem_trace_recover {body : Program service Value}
    {handler : service.Failure → Program service Value} {op : service.Op}
    (member : op ∈ body.trace fates state) :
    op ∈ (body.recover handler).trace fates state := by
  induction body generalizing state with
  | done value => cases member
  | failed failure => cases member
  | await awaited resume inductionHypothesis =>
    rcases List.mem_cons.mp member with isAwaited | later
    · exact List.mem_cons.mpr (Or.inl isAwaited)
    · exact List.mem_cons.mpr (Or.inr (inductionHypothesis _ later))

theorem exec_andFinally {body : Program service Value} {cleanup : Program service Unit}
    {cleaned : service.State} (returned : body.exec fates state = (reached, .ok value))
    (cleans : cleanup.exec fates reached = (cleaned, .ok ())) :
    (body.andFinally cleanup).exec fates state = (cleaned, .ok value) := by
  have caught : (body.recover fun failure => cleanup >>= fun _ => failed failure).exec fates
      state = (reached, .ok value) := by
    rw [exec_recover, returned]
  exact (exec_bind_ok caught).trans (exec_bind_ok cleans)

section Loops

variable {Item : Type} {body : Item → Program service Unit}
  (returns : ∀ item state, ∃ reached, (body item).exec fates state = (reached, .ok ()))
include returns

theorem exec_forEach_returns (items : List Item) (state : service.State) :
    ∃ reached, (forEach body items).exec fates state = (reached, .ok ()) := by
  induction items generalizing state with
  | nil => exact ⟨state, rfl⟩
  | cons item rest inductionHypothesis =>
    obtain ⟨next, ran⟩ := returns item state
    obtain ⟨reached, rest⟩ := inductionHypothesis next
    exact ⟨reached, (exec_bind_ok ran).trans rest⟩

theorem exec_forEach_append (first second : List Item) (state : service.State) :
    (forEach body (first ++ second)).exec fates state =
      (forEach body second).exec fates ((forEach body first).exec fates state).1 := by
  induction first generalizing state with
  | nil => rfl
  | cons item rest inductionHypothesis =>
    obtain ⟨reached, ran⟩ := returns item state
    show ((body item) >>= fun _ => forEach body (rest ++ second)).exec fates state =
      exec fates (forEach body second) (((body item) >>= fun _ => forEach body rest).exec
        fates state).1
    rw [exec_bind_ok ran, exec_bind_ok ran]
    exact inductionHypothesis reached

end Loops

theorem exec_perform (op : service.Op) (state : service.State) :
    (perform op).exec fates state = service.perform op (fates op) state := by
  simp only [perform, exec]
  rcases service.perform op (fates op) state with ⟨reached, result | failure⟩ <;> rfl

theorem exec_keeps {permitted : service.Op → Prop} {kept : service.State → Prop}
    (each : ∀ op state, permitted op → kept state →
      kept (service.perform op (fates op) state).1)
    {program : Program service Value} (only : program.Only permitted) {state : service.State}
    (holds : kept state) : kept (program.exec fates state).1 := by
  induction program generalizing state with
  | done value => exact holds
  | failed failure => exact holds
  | await op resume inductionHypothesis =>
    exact inductionHypothesis _ (only.2 _) (each op state only.1 holds)

end Exec

section Only

variable {permitted : service.Op → Prop}

theorem Only.mono {wider : service.Op → Prop} (implies : ∀ op, permitted op → wider op)
    {program : Program service Value} (only : program.Only permitted) : program.Only wider := by
  induction program with
  | done value => trivial
  | failed failure => trivial
  | await op resume inductionHypothesis =>
    exact ⟨implies op only.1, fun reply => inductionHypothesis reply (only.2 reply)⟩

theorem only_perform {op : service.Op} (holds : permitted op) : (perform op).Only permitted :=
  ⟨holds, fun
    | .ok _ => trivial
    | .error _ => trivial⟩

theorem only_bind {program : Program service Value} {next : Value → Program service Next}
    (head : program.Only permitted) (tail : ∀ value, (next value).Only permitted) :
    (program >>= next).Only permitted := by
  induction program with
  | done value => exact tail value
  | failed failure => trivial
  | await op resume inductionHypothesis =>
    exact ⟨head.1, fun reply => inductionHypothesis reply (head.2 reply)⟩

/-- An operation and what follows its answer. -/
theorem only_then {op : service.Op} {next : service.Result op → Program service Next}
    (holds : permitted op) (tail : ∀ answer, (next answer).Only permitted) :
    (perform op >>= next).Only permitted :=
  only_bind (only_perform holds) tail

theorem only_recover {body : Program service Value}
    {handler : service.Failure → Program service Value} (tried : body.Only permitted)
    (caught : ∀ failure, (handler failure).Only permitted) :
    (body.recover handler).Only permitted := by
  induction body with
  | done value => trivial
  | failed failure => exact caught failure
  | await op resume inductionHypothesis =>
    exact ⟨tried.1, fun reply => inductionHypothesis reply (tried.2 reply)⟩

theorem only_andFinally {body : Program service Value} {cleanup : Program service Unit}
    (tried : body.Only permitted) (cleaned : cleanup.Only permitted) :
    (body.andFinally cleanup).Only permitted := by
  refine only_bind (only_recover tried fun _ => ?_) fun _ => ?_
  · exact only_bind cleaned fun _ => trivial
  · exact only_bind cleaned fun _ => trivial

variable {failure : service.Failure}

theorem only_throwIf {condition : Prop} [Decidable condition] :
    (throwIf condition failure : Program service Unit).Only permitted := by
  unfold throwIf
  split <;> trivial

/-- What follows a check knows that it passed. -/
theorem only_throwIf_bind {condition : Prop} [Decidable condition]
    {next : Unit → Program service Next} (tail : ¬ condition → (next ()).Only permitted) :
    (throwIf condition failure >>= next).Only permitted := by
  unfold throwIf
  split
  · trivial
  · exact tail ‹_›

theorem only_orThrow {value : Option Value} :
    (orThrow value failure : Program service Value).Only permitted := by
  cases value <;> trivial

theorem only_ofExcept {value : Except service.Failure Value} :
    (ofExcept value : Program service Value).Only permitted := by
  cases value <;> trivial

theorem only_forEach {Item : Type} {body : Item → Program service Unit} {items : List Item}
    (each : ∀ item ∈ items, (body item).Only permitted) : (forEach body items).Only permitted := by
  induction items with
  | nil => trivial
  | cons item rest inductionHypothesis =>
    exact only_bind (each item List.mem_cons_self) fun _ =>
      inductionHypothesis fun other member => each other (List.mem_cons_of_mem _ member)

end Only

end Program

/-! ### Runs -/

/-- One answered operation of a run. -/
structure Event (service : Service) where
  caller : Nat
  op : service.Op
  fate : service.Fate op
  reply : Except service.Failure (service.Result op)

/-- The state of the outside world and every operation answered so far, the latest first. -/
structure Moment (service : Service) where
  state : service.State
  log : List (Event service)

/-- One call's operation, about to be answered. -/
structure Step (service : Service) where
  before : Moment service
  caller : Nat
  op : service.Op
  fate : service.Fate op

namespace Moment

variable {service : Service}

/-- The answers one caller has had, the latest first. -/
def own (moment : Moment service) (caller : Nat) : List (Event service) :=
  moment.log.filter fun event => event.caller = caller

end Moment

namespace Step

variable {service : Service}

/-- What the caller is told. -/
def reply (step : Step service) : Except service.Failure (service.Result step.op) :=
  (service.perform step.op step.fate step.before.state).2

def event (step : Step service) : Event service :=
  ⟨step.caller, step.op, step.fate, step.reply⟩

def after (step : Step service) : Moment service where
  state := (service.perform step.op step.fate step.before.state).1
  log := step.event :: step.before.log

theorem own_after_self (step : Step service) :
    step.after.own step.caller = step.event :: step.before.own step.caller := by
  exact List.filter_cons_of_pos (by simp [event])

theorem own_after_other (step : Step service) {other : Nat} (different : other ≠ step.caller) :
    step.after.own other = step.before.own other := by
  refine List.filter_cons_of_neg ?_
  rw [decide_eq_true_eq]
  exact Ne.symm different

end Step

/-- The calls in progress, each under its number, and the moment they have reached. -/
structure System (service : Service) (Value : Type) where
  moment : Moment service
  calls : List (Program service Value)

/-- A turn of the schedule: whose operation is answered, and the fate of whatever it awaits. -/
structure Turn (service : Service) where
  caller : Nat
  fate : (op : service.Op) → service.Fate op

namespace System

variable {service : Service} {Value : Type}

/-- The step a turn takes, if its call is waiting for one. -/
def step? (system : System service Value) (turn : Turn service) : Option (Step service) :=
  match system.calls[turn.caller]? with
  | some (.await op _) => some ⟨system.moment, turn.caller, op, turn.fate op⟩
  | _ => none

/-- Take one turn. A turn of a call that has ended changes nothing. -/
def turn (system : System service Value) (turn : Turn service) : System service Value :=
  match system.calls[turn.caller]? with
  | some (.await op resume) =>
    let step : Step service := ⟨system.moment, turn.caller, op, turn.fate op⟩
    { moment := step.after, calls := system.calls.set turn.caller (resume step.reply) }
  | _ => system

/-- Take the turns of a schedule in order. -/
def run (system : System service Value) (turns : List (Turn service)) : System service Value :=
  turns.foldl turn system

/-- The steps a schedule takes, in order. -/
def steps (system : System service Value) : List (Turn service) → List (Step service)
  | [] => []
  | turn :: rest => (system.step? turn).toList ++ (system.turn turn).steps rest

@[simp] theorem run_cons (system : System service Value) (turn : Turn service)
    (rest : List (Turn service)) :
    system.run (turn :: rest) = (system.turn turn).run rest := rfl

/-- The system in which one call runs alone. -/
def solo (state : service.State) (program : Program service Value) : System service Value where
  moment := ⟨state, []⟩
  calls := [program]

variable {system : System service Value} {turns : List (Turn service)}

theorem steps_fate {step : Step service} (member : step ∈ system.steps turns) :
    ∃ turn ∈ turns, step.fate = turn.fate step.op := by
  induction turns generalizing system with
  | nil => cases member
  | cons turn rest inductionHypothesis =>
    rcases List.mem_append.mp member with taken | later
    · refine ⟨turn, List.mem_cons_self, ?_⟩
      rw [Option.mem_toList] at taken
      unfold step? at taken
      split at taken
      · cases taken
        rfl
      · cases taken
    · obtain ⟨other, memberOther, isFate⟩ := inductionHypothesis later
      exact ⟨other, List.mem_cons_of_mem _ memberOther, isFate⟩

theorem length_turn (system : System service Value) (turn : Turn service) :
    (system.turn turn).calls.length = system.calls.length := by
  unfold System.turn
  split
  · exact List.length_set
  · rfl

theorem length_run (system : System service Value) (turns : List (Turn service)) :
    (system.run turns).calls.length = system.calls.length := by
  induction turns generalizing system with
  | nil => rfl
  | cons turn rest inductionHypothesis =>
    rw [run_cons, inductionHypothesis, length_turn]

theorem caller_lt_of_mem_steps {step : Step service} (member : step ∈ system.steps turns) :
    step.caller < system.calls.length := by
  induction turns generalizing system with
  | nil => cases member
  | cons turn rest inductionHypothesis =>
    rcases List.mem_append.mp member with taken | later
    · rw [Option.mem_toList] at taken
      unfold step? at taken
      split at taken
      · rename_i found
        cases taken
        exact (List.getElem?_eq_some_iff.mp found).1
      · cases taken
    · rw [← length_turn system turn]
      exact inductionHypothesis later

theorem run_append (system : System service Value) (first second : List (Turn service)) :
    system.run (first ++ second) = (system.run first).run second :=
  List.foldl_append

theorem steps_append (system : System service Value) (first second : List (Turn service)) :
    system.steps (first ++ second) = system.steps first ++ (system.run first).steps second := by
  induction first generalizing system with
  | nil => rfl
  | cons turn rest inductionHypothesis =>
    show (system.step? turn).toList ++ (system.turn turn).steps (rest ++ second) = _
    rw [inductionHypothesis, ← List.append_assoc]
    rfl

theorem log_run (system : System service Value) (turns : List (Turn service)) :
    ∃ newer, (system.run turns).moment.log = newer ++ system.moment.log := by
  induction turns generalizing system with
  | nil => exact ⟨[], rfl⟩
  | cons turn rest inductionHypothesis =>
    obtain ⟨newer, isNewer⟩ := inductionHypothesis (system.turn turn)
    rw [run_cons, isNewer]
    unfold System.turn
    split
    · exact ⟨newer ++ [_], by rw [List.append_assoc]; rfl⟩
    · exact ⟨newer, rfl⟩

/-- A call that has had no answer yet is still where it was. -/
theorem calls_run_of_silent {caller : Nat}
    (silent : ∀ event ∈ (system.run turns).moment.log, event.caller ≠ caller) :
    (system.run turns).calls[caller]? = system.calls[caller]? := by
  induction turns generalizing system with
  | nil => rfl
  | cons turn rest inductionHypothesis =>
    rw [run_cons] at silent ⊢
    rw [inductionHypothesis silent]
    obtain ⟨newer, isNewer⟩ := log_run (system.turn turn) rest
    rw [isNewer] at silent
    unfold System.turn at silent ⊢
    split
    · rename_i found
      rw [found] at silent
      have different : turn.caller ≠ caller :=
        silent _ (List.mem_append_right _ List.mem_cons_self)
      exact List.getElem?_set_ne different
    · rfl

/-- The operations of an uninterrupted run are steps of the system in which the call is alone. -/
theorem mem_steps_of_mem_trace {fates : (op : service.Op) → service.Fate op}
    {program : Program service Value} {moment : Moment service} {op : service.Op}
    (member : op ∈ program.trace fates moment.state) :
    ∃ (count : Nat), ∃ step ∈
      (System.mk moment [program]).steps (List.replicate count ⟨0, fates⟩), step.op = op := by
  induction program generalizing moment with
  | done value => cases member
  | failed failure => cases member
  | await awaited resume inductionHypothesis =>
    rcases List.mem_cons.mp member with isAwaited | later
    · exact ⟨1, ⟨moment, 0, awaited, fates awaited⟩, List.mem_cons_self, isAwaited.symm⟩
    · obtain ⟨count, step, memberStep, isOp⟩ := @inductionHypothesis _
        (Step.mk moment 0 awaited (fates awaited)).after later
      exact ⟨count + 1, step, List.mem_append_right _ memberStep, isOp⟩

theorem run_keeps {invariant : Moment service → Prop} {allowed promised : Step service → Prop}
    (each : ∀ step : Step service, invariant step.before → allowed step →
      promised step ∧ invariant step.after)
    {system : System service Value} (start : invariant system.moment) (turns : List (Turn service))
    (isAllowed : ∀ step ∈ system.steps turns, allowed step) :
    invariant (system.run turns).moment ∧ ∀ step ∈ system.steps turns, promised step := by
  induction turns generalizing system with
  | nil => exact ⟨start, fun step member => by cases member⟩
  | cons turn rest inductionHypothesis =>
    have turned : (∀ step ∈ (system.step? turn).toList, promised step) ∧
        invariant (system.turn turn).moment := by
      unfold steps step? at isAllowed
      unfold step? System.turn
      split
      · rename_i op resume found
        rw [found] at isAllowed
        obtain ⟨holds, kept⟩ := each _ start (isAllowed _ List.mem_cons_self)
        refine ⟨fun step member => ?_, kept⟩
        rw [List.mem_singleton.mp member]
        exact holds
      · exact ⟨fun step member => (List.not_mem_nil member).elim, start⟩
    obtain ⟨kept, holds⟩ := inductionHypothesis turned.2 fun step member =>
      isAllowed step (List.mem_append_right _ member)
    refine ⟨kept, fun step member => ?_⟩
    rcases List.mem_append.mp member with now | later
    · exact turned.1 step now
    · exact holds step later

theorem caller_lt_of_mem_log (silent : system.moment.log = []) (turns : List (Turn service)) :
    ∀ event ∈ (system.run turns).moment.log, event.caller < system.calls.length := by
  let heard (moment : Moment service) : Prop :=
    ∀ event ∈ moment.log, event.caller < system.calls.length
  have start : heard system.moment := by
    intro event member
    rw [silent] at member
    cases member
  have each : ∀ step : Step service, heard step.before → step.caller < system.calls.length →
      True ∧ heard step.after := by
    refine fun step before isCaller => ⟨trivial, fun event member => ?_⟩
    rcases List.mem_cons.mp member with now | earlier
    · rw [now]
      exact isCaller
    · exact before event earlier
  exact (@run_keeps service Value heard (fun step => step.caller < system.calls.length)
    (fun _ => True) each system start turns fun step member => caller_lt_of_mem_steps member).1

/-- What a step brings about and every step keeps is there at the end of the run. -/
theorem run_retains {kept : Moment service → Prop} {allowed : Step service → Prop}
    (each : ∀ step : Step service, kept step.before → allowed step → kept step.after)
    {system : System service Value} {turns : List (Turn service)}
    (isAllowed : ∀ step ∈ system.steps turns, allowed step) {step : Step service}
    (member : step ∈ system.steps turns) (brought : kept step.after) :
    kept (system.run turns).moment := by
  induction turns generalizing system with
  | nil => cases member
  | cons turn rest inductionHypothesis =>
    have laterAllowed : ∀ later ∈ (system.turn turn).steps rest, allowed later :=
      fun later isLater => isAllowed later (List.mem_append_right _ isLater)
    rcases List.mem_append.mp member with now | later
    · have turned : (system.turn turn).moment = step.after := by
        unfold step? at now
        unfold System.turn
        split at now
        · rename_i op resume found
          rw [List.mem_singleton.mp now]
        · exact (List.not_mem_nil now).elim
      have start : kept (system.turn turn).moment := by
        rw [turned]
        exact brought
      exact (run_keeps (fun later holds isAllowed => ⟨trivial, each later holds isAllowed⟩) start
        rest laterAllowed : _ ∧ ∀ later ∈ (system.turn turn).steps rest, True).1
    · exact inductionHypothesis laterAllowed later

theorem each_call {Request : Type} {requests : List Request}
    {call : Request → Program service Value} {expected : Nat → Program service Value → Prop}
    (each : ∀ caller request, expected caller (call request)) (caller : Nat)
    (program : Program service Value) (found : (requests.map call)[caller]? = some program) :
    expected caller program := by
  obtain ⟨request, -, isCall⟩ := List.mem_map.mp (List.mem_of_getElem? found)
  rw [← isCall]
  exact each caller request

theorem permitted_of_only {permitted : service.Op → Prop}
    (only : ∀ (caller : Nat) (program : Program service Value),
      system.calls[caller]? = some program → program.Only permitted) (turns : List (Turn service)) :
    ∀ step ∈ system.steps turns, permitted step.op := by
  induction turns generalizing system with
  | nil => exact fun step member => (List.not_mem_nil member).elim
  | cons turn rest inductionHypothesis =>
    intro step member
    rcases List.mem_append.mp member with now | later
    · unfold step? at now
      split at now
      · rename_i op resume found
        rw [List.mem_singleton.mp now]
        exact (only _ _ found).1
      · exact (List.not_mem_nil now).elim
    · refine inductionHypothesis (fun caller program found => ?_) step later
      unfold System.turn at found
      split at found
      · rename_i op resume isAwaiting
        rw [List.getElem?_set] at found
        split at found
        · split at found
          · rw [← Option.some.inj found]
            exact (only _ _ isAwaiting).2 _
          · cases found
        · exact only caller program found
      · exact only caller program found

end System

end Async
