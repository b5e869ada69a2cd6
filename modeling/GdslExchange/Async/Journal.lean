/-
This file follows calls that are made one after another: what each of them leaves in a journal,
and what holds after each of them.
-/

import GdslExchange.Async.Program

namespace Async

namespace Program

variable {service : Service} {Value Next Entry : Type}
  (note : (op : service.Op) → service.Fate op → List Entry)
  (fates : (op : service.Op) → service.Fate op)

/-- What the operations of a call leave in a journal, in the order in which it awaits them. -/
def journal : Program service Value → service.State → List Entry
  | done _, _ => []
  | failed _, _ => []
  | await op resume, state =>
    let performed := service.perform op (fates op) state
    note op (fates op) ++ (resume performed.2).journal performed.1

variable {note fates}

theorem journal_bind (program : Program service Value) (next : Value → Program service Next)
    (state : service.State) :
    (program >>= next).journal note fates state =
      program.journal note fates state ++ match program.exec fates state with
        | (reached, .ok value) => (next value).journal note fates reached
        | (_, .error _) => [] := by
  rw [bind_eq]
  induction program generalizing state with
  | done value => rfl
  | failed failure => rfl
  | await op resume inductionHypothesis =>
    simp only [bind, journal, exec, inductionHypothesis, List.append_assoc]

variable {program : Program service Value} {state : service.State}

theorem journal_bind_ok {next : Value → Program service Next} {reached : service.State}
    {value : Value} (returned : program.exec fates state = (reached, .ok value)) :
    (program >>= next).journal note fates state =
      program.journal note fates state ++ (next value).journal note fates reached := by
  rw [journal_bind, returned]

theorem journal_bind_error {next : Value → Program service Next} {reached : service.State}
    {failure : service.Failure} (thrown : program.exec fates state = (reached, .error failure)) :
    (program >>= next).journal note fates state = program.journal note fates state := by
  rw [journal_bind, thrown, List.append_nil]

@[simp] theorem journal_perform (op : service.Op) (state : service.State) :
    (perform op).journal note fates state = note op (fates op) := by
  simp only [perform, journal]
  rcases service.perform op (fates op) state with ⟨reached, result | failure⟩ <;>
    exact List.append_nil _

theorem journal_recover (body : Program service Value)
    (handler : service.Failure → Program service Value) (state : service.State) :
    (body.recover handler).journal note fates state =
      body.journal note fates state ++ match body.exec fates state with
        | (_, .ok _) => []
        | (reached, .error failure) => (handler failure).journal note fates reached := by
  induction body generalizing state with
  | done value => rfl
  | failed failure => rfl
  | await op resume inductionHypothesis =>
    simp only [recover, journal, exec, inductionHypothesis, List.append_assoc]

/-- What a call leaves, one of the operations that it may await has left. -/
theorem exists_of_mem_journal {permitted : service.Op → Prop} (only : program.Only permitted)
    {entry : Entry} (member : entry ∈ program.journal note fates state) :
    ∃ op, permitted op ∧ entry ∈ note op (fates op) := by
  induction program generalizing state with
  | done value => cases member
  | failed failure => cases member
  | await op resume inductionHypothesis =>
    rcases List.mem_append.mp member with own | rest
    · exact ⟨op, only.1, own⟩
    · exact inductionHypothesis _ (only.2 _) rest

/-- A call leaves nothing if none of its operations does. -/
theorem journal_eq_nil {permitted : service.Op → Prop} (only : program.Only permitted)
    (silent : ∀ op, permitted op → note op (fates op) = []) (state : service.State) :
    program.journal note fates state = [] := by
  refine List.eq_nil_iff_forall_not_mem.mpr fun entry member => ?_
  obtain ⟨op, isPermitted, left⟩ := exists_of_mem_journal only member
  rw [silent op isPermitted] at left
  cases left

end Program

/-! ### One call after another -/

section Sequence

variable {Item State : Type} (step : Item → State → State)

def Along (holds : Item → State → Prop) : List Item → State → Prop
  | [], _ => True
  | item :: rest, state => holds item state ∧ Along holds rest (step item state)

def Always (holds : State → Prop) : List Item → State → Prop
  | [], state => holds state
  | item :: rest, state => holds state ∧ Always holds rest (step item state)

def Always.decide {holds : State → Prop} [DecidablePred holds] :
    (items : List Item) → (state : State) → Decidable (Always step holds items state)
  | [], state => inferInstanceAs (Decidable (holds state))
  | item :: rest, state =>
    @instDecidableAnd _ _ _ (Always.decide rest (step item state))

instance {holds : State → Prop} [DecidablePred holds] (items : List Item) (state : State) :
    Decidable (Always step holds items state) := Always.decide step items state

def Along.decide {holds : Item → State → Prop} [∀ item, DecidablePred (holds item)] :
    (items : List Item) → (state : State) → Decidable (Along step holds items state)
  | [], _ => isTrue trivial
  | item :: rest, state =>
    @instDecidableAnd _ _ _ (Along.decide rest (step item state))

instance {holds : Item → State → Prop} [∀ item, DecidablePred (holds item)] (items : List Item)
    (state : State) : Decidable (Along step holds items state) := Along.decide step items state

variable {step}

/-- Where an item that is admitted keeps what holds if and only if something holds of it, what
holds at the start holds throughout if and only if that holds of each item. -/
theorem always_iff_along_admitted {kept holds : State → Prop}
    {admitted fits : Item → State → Prop}
    (keeps : ∀ item state, kept state → admitted item state → fits item state →
      kept (step item state))
    (each : ∀ item state, kept state → admitted item state →
      (holds (step item state) ↔ fits item state))
    {items : List Item} {state : State} (isKept : kept state) (start : holds state)
    (areAdmitted : Along step admitted items state) :
    Always step holds items state ↔ Along step fits items state := by
  induction items generalizing state with
  | nil => exact iff_of_true start trivial
  | cons item rest inductionHypothesis =>
    obtain ⟨isAdmitted, others⟩ := areAdmitted
    have first := each item state isKept isAdmitted
    constructor
    · rintro ⟨-, always⟩
      have next : holds (step item state) := by
        cases rest with
        | nil => exact always
        | cons other more => exact always.1
      have isFit := first.mp next
      exact ⟨isFit, (inductionHypothesis (keeps item state isKept isAdmitted isFit) next
        others).mp always⟩
    · rintro ⟨isFit, along⟩
      exact ⟨start, (inductionHypothesis (keeps item state isKept isAdmitted isFit)
        (first.mpr isFit) others).mpr along⟩

theorem along_of_forall {holds : Item → State → Prop} (each : ∀ item state, holds item state)
    (items : List Item) (state : State) : Along step holds items state := by
  induction items generalizing state with
  | nil => trivial
  | cons item rest inductionHypothesis => exact ⟨each item state, inductionHypothesis _⟩

theorem always_iff_along {kept holds : State → Prop} {fits : Item → State → Prop}
    (keeps : ∀ item state, kept state → kept (step item state))
    (each : ∀ item state, kept state → holds state → (holds (step item state) ↔ fits item state))
    {items : List Item} {state : State} (isKept : kept state) (start : holds state) :
    Always step holds items state ↔ Along step fits items state := by
  refine @always_iff_along_admitted _ _ step (fun state => kept state ∧ holds state) holds
    (fun _ _ => True) fits (fun item state both _ isFit => ?_)
    (fun item state both _ => each item state both.1 both.2) items state ⟨isKept, start⟩ start
    (along_of_forall (fun _ _ => trivial) items state)
  exact ⟨keeps item state both.1, (each item state both.1 both.2).mpr isFit⟩

end Sequence

end Async
