/-
This file reads a call as a caller that moves through phases.

A protocol says in which phases an operation may be awaited and which phase its
answer leads to. Following a protocol is a property of the program alone,
whatever it is told. What the operations then do to the world is one lemma about
single steps: if every permitted step keeps an invariant, then so does every
schedule of calls that follow the protocol.
-/

import GdslExchange.Async.Contract
import Mathlib.Tactic.Set

namespace Async

/-- Phases of a caller, and what he may await in each. -/
structure Protocol (service : Service) (Phase : Type) where
  start : Phase
  permits : Phase → service.Op → Prop
  next : Phase → (op : service.Op) → Except service.Failure (service.Result op) → Phase

namespace Protocol

variable {service : Service} {Phase Value Next : Type} (protocol : Protocol service Phase)

def phase (moment : Moment service) (caller : Nat) : Phase :=
  (moment.own caller).foldr (fun event reached => protocol.next reached event.op event.reply)
    protocol.start

/-- The program follows the protocol from a phase on, and ends in `post`. -/
def Follows : Phase → Program service Value →
    (Except service.Failure Value → Phase → Prop) → Prop
  | phase, .done value, post => post (.ok value) phase
  | phase, .failed failure, post => post (.error failure) phase
  | phase, .await op resume, post =>
    protocol.permits phase op ∧ ∀ reply, Follows (protocol.next phase op reply) (resume reply) post

/-- An operation that a phase permits and that does not lead out of it. -/
def Neutral (phase : Phase) (op : service.Op) : Prop :=
  protocol.permits phase op ∧ ∀ reply, protocol.next phase op reply = phase

/-- What is known of a phase after a return, and after a throw. -/
def ends (returns : Value → Phase → Prop) (throws : Phase → Prop) :
    Except service.Failure Value → Phase → Prop
  | .ok value => returns value
  | .error _ => throws

/-- Nothing is known of the phase. -/
abbrev anywhere : Except service.Failure Value → Phase → Prop :=
  ends (fun _ _ => True) fun _ => True

variable {protocol}

variable {caller : Nat}

/-! ### Phases along a run -/

theorem phase_of_own {first second : Moment service} (same : second.own caller = first.own caller) :
    protocol.phase second caller = protocol.phase first caller := by
  unfold phase
  rw [same]

theorem phase_after_self (step : Step service) :
    protocol.phase step.after step.caller =
      protocol.next (protocol.phase step.before step.caller) step.op step.reply := by
  unfold phase
  rw [Step.own_after_self]
  rfl

theorem phase_after_other (step : Step service) {other : Nat} (different : other ≠ step.caller) :
    protocol.phase step.after other = protocol.phase step.before other :=
  phase_of_own (Step.own_after_other step different)

variable {moment : Moment service}

theorem phase_of_silent (silent : ∀ event ∈ moment.log, event.caller ≠ caller) :
    protocol.phase moment caller = protocol.start := by
  have noEvents : moment.own caller = [] :=
    List.filter_eq_nil_iff.mpr fun event member => by
      rw [decide_eq_true_eq]
      exact silent event member
  unfold phase
  rw [noEvents]
  rfl

theorem phases_after (step : Step service) :
    protocol.phase step.after = Function.update (protocol.phase step.before) step.caller
      (protocol.next (protocol.phase step.before step.caller) step.op step.reply) := by
  funext caller
  by_cases same : caller = step.caller
  · rw [same, Function.update_self, phase_after_self]
  · rw [Function.update_of_ne same, phase_after_other step same]

def Others (protocol : Protocol service Phase) (moment : Moment service) (caller : Nat)
    (free : Phase → Prop) : Prop :=
  ∀ event ∈ moment.log, event.caller ≠ caller → free (protocol.phase moment event.caller)

instance (moment : Moment service) (caller : Nat) (free : Phase → Prop) [DecidablePred free] :
    Decidable (protocol.Others moment caller free) :=
  inferInstanceAs (Decidable (∀ event ∈ _, _ → _))

theorem Others.apply {free : Phase → Prop} (others : protocol.Others moment caller free)
    (start : free protocol.start) {other : Nat} (different : other ≠ caller) :
    free (protocol.phase moment other) := by
  by_cases heard : ∃ event ∈ moment.log, event.caller = other
  · obtain ⟨event, member, isOther⟩ := heard
    rw [← isOther]
    exact others event member (isOther.trans_ne different)
  · rw [phase_of_silent fun event member isOther => heard ⟨event, member, isOther⟩]
    exact start

/-! ### Rules -/

variable {phase : Phase} {returns : Value → Phase → Prop} {throws : Phase → Prop}

variable {post : Except service.Failure Value → Phase → Prop} {program : Program service Value}

theorem Follows.mono {weaker : Except service.Failure Value → Phase → Prop}
    (follows : protocol.Follows phase program post)
    (implies : ∀ result reached, post result reached → weaker result reached) :
    protocol.Follows phase program weaker := by
  induction program generalizing phase with
  | done value => exact implies _ _ follows
  | failed failure => exact implies _ _ follows
  | await op resume inductionHypothesis =>
    exact ⟨follows.1, fun reply => inductionHypothesis reply (follows.2 reply)⟩

theorem Follows.permitting {wider : Protocol service Phase} (sameNext : wider.next = protocol.next)
    (permits : ∀ phase op, protocol.permits phase op → wider.permits phase op)
    (follows : protocol.Follows phase program post) : wider.Follows phase program post := by
  induction program generalizing phase with
  | done value => exact follows
  | failed failure => exact follows
  | await op resume inductionHypothesis =>
    refine ⟨permits phase op follows.1, fun reply => inductionHypothesis reply ?_⟩
    rw [sameNext]
    exact follows.2 reply

theorem Follows.throwing {weaker : Phase → Prop}
    (follows : protocol.Follows phase program (ends returns throws))
    (implies : ∀ reached, throws reached → weaker reached) :
    protocol.Follows phase program (ends returns weaker) := by
  refine follows.mono fun result reached holds => ?_
  cases result with
  | ok value => exact holds
  | error failure => exact implies reached holds

theorem Follows.done {value : Value} (holds : returns value phase) :
    protocol.Follows phase (.done value) (ends returns throws) := holds

variable {returnsNext : Next → Phase → Prop} {first : Program service Value}
  {next : Value → Program service Next}

theorem Follows.bind (head : protocol.Follows phase first (ends returns throws))
    (tail : ∀ value reached, returns value reached →
      protocol.Follows reached (next value) (ends returnsNext throws)) :
    protocol.Follows phase (first >>= next) (ends returnsNext throws) := by
  induction first generalizing phase with
  | done value => exact tail value phase head
  | failed failure => exact head
  | await op resume inductionHypothesis =>
    exact ⟨head.1, fun reply => inductionHypothesis reply (head.2 reply)⟩

theorem Follows.andThen {there : Phase}
    (head : protocol.Follows phase first (ends (fun _ reached => reached = there) throws))
    (tail : ∀ value, protocol.Follows there (next value) (ends returnsNext throws)) :
    protocol.Follows phase (first >>= next) (ends returnsNext throws) :=
  Follows.bind head fun value reached same => by
    rw [same]
    exact tail value

theorem Follows.recover {throwsInner : Phase → Prop} {body : Program service Value}
    {handler : service.Failure → Program service Value}
    (tried : protocol.Follows phase body (ends returns throwsInner))
    (caught : ∀ failure reached, throwsInner reached →
      protocol.Follows reached (handler failure) (ends returns throws)) :
    protocol.Follows phase (body.recover handler) (ends returns throws) := by
  induction body generalizing phase with
  | done value => exact tried
  | failed failure => exact caught failure phase tried
  | await op resume inductionHypothesis =>
    exact ⟨tried.1, fun reply => inductionHypothesis reply (tried.2 reply)⟩

theorem Follows.perform {op : service.Op} {returns : service.Result op → Phase → Prop}
    (permitted : protocol.permits phase op)
    (answered : ∀ result, returns result (protocol.next phase op (.ok result)))
    (thrown : ∀ failure, throws (protocol.next phase op (.error failure))) :
    protocol.Follows phase (Program.perform op) (ends returns throws) := by
  refine ⟨permitted, fun reply => ?_⟩
  cases reply with
  | ok result => exact answered result
  | error failure => exact thrown failure

/-- An operation whose answer leads to a phase, and what follows there. -/
theorem Follows.moves {op : service.Op} {next : service.Result op → Program service Next}
    {post : Except service.Failure Next → Phase → Prop} (there : service.Result op → Phase)
    (permitted : protocol.permits phase op)
    (answered : ∀ result, protocol.next phase op (.ok result) = there result)
    (thrown : ∀ failure, post (.error failure) (protocol.next phase op (.error failure)))
    (tail : ∀ result, protocol.Follows (there result) (next result) post) :
    protocol.Follows phase (Program.perform op >>= next) post := by
  refine ⟨permitted, fun reply => ?_⟩
  cases reply with
  | ok result => exact answered result ▸ tail result
  | error failure => exact thrown failure

theorem Follows.throwIf {condition : Prop} [Decidable condition] {failure : service.Failure}
    {rest : Unit → Program service Value} (thrown : condition → throws phase)
    (passed : ¬ condition → protocol.Follows phase (rest ()) (ends returns throws)) :
    protocol.Follows phase (Program.throwIf condition failure >>= rest)
      (ends returns throws) := by
  unfold Program.throwIf
  split
  · exact thrown ‹_›
  · exact passed ‹_›

theorem Follows.orThrow {value : Option Next} {failure : service.Failure}
    {rest : Next → Program service Value} (absent : value = none → throws phase)
    (present : ∀ found, value = some found →
      protocol.Follows phase (rest found) (ends returns throws)) :
    protocol.Follows phase (Program.orThrow value failure >>= rest) (ends returns throws) := by
  cases value with
  | none => exact absent rfl
  | some found => exact present found rfl

theorem Follows.ofExcept {value : Except service.Failure Next}
    {rest : Next → Program service Value}
    (thrown : ∀ failure, value = .error failure → throws phase)
    (computed : ∀ result, value = .ok result →
      protocol.Follows phase (rest result) (ends returns throws)) :
    protocol.Follows phase (Program.ofExcept value >>= rest) (ends returns throws) := by
  cases value with
  | ok result => exact computed result rfl
  | error failure => exact thrown failure rfl

variable {Item : Type} {body : Item → Program service Unit} {items : List Item}

theorem Follows.forEach
    (each : ∀ item ∈ items, protocol.Follows phase (body item)
      (ends (fun _ reached => reached = phase) throws)) :
    protocol.Follows phase (Program.forEach body items)
      (ends (fun _ reached => reached = phase) throws) := by
  induction items with
  | nil => exact rfl
  | cons item rest inductionHypothesis =>
    refine Follows.bind (each item List.mem_cons_self) fun _ reached same => ?_
    rw [same]
    exact inductionHypothesis fun other member => each other (List.mem_cons_of_mem _ member)

theorem Follows.andFinally {body : Program service Value} {cleanup : Program service Unit}
    (tried : protocol.Follows phase body (ends returns throws))
    (stays : ∀ reached, protocol.Follows reached cleanup
      (ends (fun _ later => later = reached) fun later => later = reached))
    (implies : ∀ value reached, returns value reached → throws reached) :
    protocol.Follows phase (Program.andFinally body cleanup) (ends returns throws) := by
  have cleaned : ∀ reached, throws reached → protocol.Follows reached cleanup
      (ends (fun _ later => throws later) throws) := by
    intro reached holds
    refine (stays reached).mono fun result later same => ?_
    cases result <;> (rw [show later = reached from same]; exact holds)
  refine Follows.bind (Follows.recover tried fun failure reached holds =>
    Follows.bind (cleaned reached holds) fun _ later thrown => thrown) fun value reached holds => ?_
  refine Follows.bind ((stays reached).mono fun result later same => ?_) fun _ later kept => kept
  cases result with
  | ok answer =>
    rw [show later = reached from same]
    exact holds
  | error failure =>
    rw [show later = reached from same]
    exact implies value reached holds

theorem Follows.finally {returnsNext : Value → Phase → Prop} {throwsInner : Phase → Prop}
    {body : Program service Value} {cleanup : Program service Unit}
    (tried : protocol.Follows phase body (ends returns throwsInner))
    (returned : ∀ value reached, returns value reached →
      protocol.Follows reached cleanup (ends (fun _ later => returnsNext value later) throws))
    (thrown : ∀ reached, throwsInner reached →
      protocol.Follows reached cleanup (ends (fun _ later => throws later) throws)) :
    protocol.Follows phase (Program.andFinally body cleanup) (ends returnsNext throws) := by
  have recovered : protocol.Follows phase
      (body.recover fun failure => cleanup.bind fun _ => .failed failure) (ends returns throws) :=
    Follows.recover tried fun failure reached holds =>
      Follows.bind (thrown reached holds) fun _ later is => is
  refine Follows.bind recovered fun value reached holds => ?_
  exact Follows.bind (returned value reached holds) fun _ later is => is

theorem Follows.neutral (only : program.Only (protocol.Neutral phase)) :
    protocol.Follows phase program (ends (fun _ reached => reached = phase)
      fun reached => reached = phase) := by
  induction program with
  | done value => exact rfl
  | failed failure => exact rfl
  | await op resume inductionHypothesis =>
    refine ⟨only.1.1, fun reply => ?_⟩
    rw [only.1.2 reply]
    exact inductionHypothesis reply (only.2 reply)

/-! ### Programs that come back to their phase -/

/-- The program ends in the phase it starts in, however it ends. -/
def Stays (protocol : Protocol service Phase) (phase : Phase) (program : Program service Value) :
    Prop :=
  protocol.Follows phase program (ends (fun _ reached => reached = phase)
    fun reached => reached = phase)

theorem Stays.bind (head : protocol.Stays phase first)
    (tail : ∀ value, protocol.Stays phase (next value)) :
    protocol.Stays phase (first >>= next) := Follows.andThen head tail

theorem Stays.andThen (head : protocol.Stays phase first)
    (tail : ∀ value, protocol.Follows phase (next value) (ends returnsNext throws))
    (thrown : throws phase) : protocol.Follows phase (first >>= next) (ends returnsNext throws) :=
  Follows.andThen (head.throwing fun _ same => same ▸ thrown) tail

theorem Stays.recover {body : Program service Value}
    {handler : service.Failure → Program service Value} (tried : protocol.Stays phase body)
    (caught : ∀ failure, protocol.Stays phase (handler failure)) :
    protocol.Stays phase (body.recover handler) :=
  Follows.recover tried fun failure reached same => by
    rw [same]
    exact caught failure

theorem Stays.forEach (each : ∀ item, protocol.Stays phase (body item)) :
    protocol.Stays phase (Program.forEach body items) :=
  Follows.forEach fun item _ => each item

theorem Stays.done (value : Value) : protocol.Stays phase (.done value : Program service Value) :=
  rfl

theorem Stays.perform {op : service.Op} (neutral : protocol.Neutral phase op) :
    protocol.Stays phase (Program.perform op) :=
  Follows.neutral (Program.only_perform neutral)

/-! ### Programs that may start in every phase -/

/-- The program follows the protocol from wherever its caller stands. -/
def Anywhere (protocol : Protocol service Phase) (program : Program service Value) : Prop :=
  ∀ phase, protocol.Follows phase program (ends (fun _ _ => True) fun _ => True)

theorem Anywhere.bind (head : protocol.Anywhere first)
    (tail : ∀ value, protocol.Anywhere (next value)) :
    protocol.Anywhere (first >>= next) :=
  fun phase => Follows.bind (head phase) fun value reached _ => tail value reached

theorem Anywhere.recover {body : Program service Value}
    {handler : service.Failure → Program service Value} (tried : protocol.Anywhere body)
    (caught : ∀ failure, protocol.Anywhere (handler failure)) :
    protocol.Anywhere (body.recover handler) :=
  fun phase => Follows.recover (tried phase) fun failure reached _ => caught failure reached

theorem Anywhere.forEach (each : ∀ item, protocol.Anywhere (body item)) :
    protocol.Anywhere (Program.forEach body items) := by
  induction items with
  | nil => exact fun _ => trivial
  | cons item rest inductionHypothesis => exact (each item).bind fun _ => inductionHypothesis

theorem Anywhere.only (only : program.Only fun op => ∀ phase, protocol.permits phase op) :
    protocol.Anywhere program := by
  induction program with
  | done value => exact fun _ => trivial
  | failed failure => exact fun _ => trivial
  | await op resume inductionHypothesis =>
    exact fun phase => ⟨only.1 phase, fun reply => inductionHypothesis reply (only.2 reply) _⟩

/-! ### Programs that keep to phases of a kind -/

/-- From the phases of a kind the program follows the protocol, and it returns in one of them. -/
def Within (protocol : Protocol service Phase) (kept lost : Phase → Prop)
    (program : Program service Value) : Prop :=
  ∀ phase, kept phase → protocol.Follows phase program (ends (fun _ reached => kept reached) lost)

section Within

variable {kept lost : Phase → Prop}

theorem Within.done (value : Value) :
    protocol.Within kept lost (.done value : Program service Value) := fun _ holds => holds

theorem Within.bind {first : Program service Value} {next : Value → Program service Next}
    (head : protocol.Within kept lost first)
    (tail : ∀ value, protocol.Within kept lost (next value)) :
    protocol.Within kept lost (first >>= next) :=
  fun phase holds => Follows.bind (head phase holds) fun value => tail value

theorem Within.throwing {program : Program service Value}
    (within : protocol.Within kept kept program) (implies : ∀ phase, kept phase → lost phase) :
    protocol.Within kept lost program :=
  fun phase holds => (within phase holds).throwing implies

theorem Within.recover {body : Program service Value}
    {handler : service.Failure → Program service Value} (tried : protocol.Within kept kept body)
    (caught : ∀ failure, protocol.Within kept lost (handler failure)) :
    protocol.Within kept lost (body.recover handler) :=
  fun phase holds => Follows.recover (tried phase holds) caught

theorem Within.andFinally {body : Program service Value} {cleanup : Program service Unit}
    (tried : protocol.Within kept kept body) (cleaned : protocol.Within kept kept cleanup) :
    protocol.Within kept kept (Program.andFinally body cleanup) :=
  fun phase holds => Follows.finally (tried phase holds) (fun _ => cleaned) cleaned

/-- A program whose operations are permitted in the phases of the kind, and lead to such. -/
theorem Within.only {program : Program service Value}
    (only : program.Only fun op => ∀ phase, kept phase →
      protocol.permits phase op ∧ ∀ reply, kept (protocol.next phase op reply)) :
    protocol.Within kept kept program := by
  induction program with
  | done value => exact fun _ holds => holds
  | failed failure => exact fun _ holds => holds
  | await op resume inductionHypothesis =>
    intro phase holds
    obtain ⟨permitted, leads⟩ := only.1 phase holds
    exact ⟨permitted, fun reply => inductionHypothesis reply (only.2 reply) _ (leads reply)⟩

end Within

/-! ### Soundness -/

variable {allowed : Step service → Prop} {invariant : Moment service → Prop}

/-- The contract of callers that follow the protocol: they rely on their own answers only. -/
def contract (protocol : Protocol service Phase) (allowed : Step service → Prop)
    (invariant : Moment service → Prop) : Contract service where
  allowed := allowed
  promised step := protocol.permits (protocol.phase step.before step.caller) step.op
  invariant := invariant
  rely caller first second := second.own caller = first.own caller
  rely_refl _ _ := rfl
  rely_trans _ _ _ _ head tail := tail.trans head

theorem contract_stable (post : Nat → Except service.Failure Value → Phase → Prop)
    (caller : Nat) (result : Except service.Failure Value) :
    (protocol.contract allowed invariant).Stable caller
      fun moment => post caller result (protocol.phase moment caller) := by
  intro moment later holds relied _
  show post caller result (protocol.phase later caller)
  rw [phase_of_own relied]
  exact holds

def Keeps (protocol : Protocol service Phase) (allowed : Step service → Prop)
    (invariant : Moment service → Prop) : Prop :=
  ∀ step : Step service, protocol.permits (protocol.phase step.before step.caller) step.op →
    allowed step → invariant step.before → invariant step.after

theorem Follows.meets (keeps : protocol.Keeps allowed invariant)
    (follows : protocol.Follows (protocol.phase moment caller) program post) :
    (protocol.contract allowed invariant).Meets caller program
      (fun result reached => post result (protocol.phase reached caller)) moment := by
  induction program generalizing moment with
  | done value => exact follows
  | failed failure => exact follows
  | await op resume inductionHypothesis =>
    intro before relied holds fate isAllowed
    set step : Step service := ⟨before, caller, op, fate⟩ with stepIs
    have samePhase : protocol.phase step.before step.caller = protocol.phase moment caller :=
      phase_of_own relied
    have permitted : protocol.permits (protocol.phase step.before step.caller) step.op := by
      rw [samePhase]
      exact follows.1
    refine ⟨⟨permitted, keeps step permitted isAllowed holds,
      fun other different => Step.own_after_other step different⟩, ?_⟩
    refine inductionHypothesis step.reply ?_
    have next : protocol.phase step.after caller = _ := phase_after_self step
    rw [samePhase] at next
    rw [next]
    exact follows.2 step.reply

/-- Calls that follow a protocol keep what its permitted steps keep, under every schedule whose
steps are allowed, and end in their own assertions. -/
theorem sound {post : Nat → Except service.Failure Value → Phase → Prop}
    {system : System service Value} (keeps : protocol.Keeps allowed invariant)
    (start : invariant system.moment)
    (follows : ∀ caller program, system.calls[caller]? = some program →
      protocol.Follows (protocol.phase system.moment caller) program (post caller))
    (turns : List (Turn service)) (isAllowed : ∀ step ∈ system.steps turns, allowed step) :
    (protocol.contract allowed invariant).Holds
        (fun caller result moment => post caller result (protocol.phase moment caller))
        (system.run turns) ∧
      ∀ step ∈ system.steps turns,
        protocol.permits (protocol.phase step.before step.caller) step.op := by
  have holds : (protocol.contract allowed invariant).Holds
      (fun caller result moment => post caller result (protocol.phase moment caller)) system :=
    ⟨start, fun caller program found => (follows caller program found).meets keeps⟩
  obtain ⟨last, respects⟩ := Contract.sound (contract_stable post) holds turns isAllowed
  exact ⟨last, fun step member => (respects step member).promised⟩

/-- A call that follows a protocol still does after its first turns and those of others. -/
theorem Follows.run {system : System service Value}
    (follows : ∀ program, system.calls[caller]? = some program →
      protocol.Follows (protocol.phase system.moment caller) program post)
    (turns : List (Turn service)) (found : (system.run turns).calls[caller]? = some program) :
    protocol.Follows (protocol.phase (system.run turns).moment caller) program post := by
  induction turns generalizing system with
  | nil => exact follows program found
  | cons turn rest inductionHypothesis =>
    refine inductionHypothesis (fun next isNext => ?_) found
    unfold System.turn at isNext ⊢
    split at isNext
    · rename_i op resume isAwaiting
      set step : Step service := ⟨system.moment, turn.caller, op, turn.fate op⟩ with stepIs
      rw [List.getElem?_set] at isNext
      split at isNext
      · next same =>
        split at isNext
        · rw [← Option.some.inj isNext, ← same]
          have now : protocol.phase step.after step.caller = _ := phase_after_self step
          rw [same] at isAwaiting
          have next := (follows _ isAwaiting).2 step.reply
          rw [← same] at next
          exact now ▸ next
        · cases isNext
      · next different =>
        have kept : protocol.phase step.after caller = protocol.phase step.before caller :=
          phase_after_other step (Ne.symm different)
        rw [kept]
        exact follows next isNext
    · exact follows next isNext

theorem permitted {post : Nat → Except service.Failure Value → Phase → Prop}
    {system : System service Value}
    (follows : ∀ caller program, system.calls[caller]? = some program →
      protocol.Follows (protocol.phase system.moment caller) program (post caller))
    (turns : List (Turn service)) :
    ∀ step ∈ system.steps turns,
      protocol.permits (protocol.phase step.before step.caller) step.op :=
  (@sound service Phase Value protocol (fun _ => True) (fun _ => True) post system
    (fun _ _ _ _ => trivial) trivial follows turns fun _ _ => trivial).2

end Protocol

end Async
