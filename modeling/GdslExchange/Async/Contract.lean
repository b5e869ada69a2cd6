/-
This file proves properties of interleaved calls one call at a time.

A contract names what a caller may rely on while it is suspended, the invariant
every step keeps, and what every step promises. `Meets` reads a program against
a contract: at each await the world may have moved by the caller's rely, and
whatever the operation does must keep the invariant, the promise, and every
other caller's rely. If each call meets the contract, then so does every
schedule of them; `sound` is that induction, done once.

A contract also says which steps are allowed. A theorem about the runs that
avoid some step is a theorem about a contract that does not allow it.
-/

import GdslExchange.Async.Program

namespace Async

/-- Rely, guarantee and invariant of a family of calls, under a restriction on steps. -/
structure Contract (service : Service) where
  /-- The steps the statement is about. -/
  allowed : Step service → Prop
  /-- What is proved of each of these steps. -/
  promised : Step service → Prop
  /-- What is proved of each moment they reach. -/
  invariant : Moment service → Prop
  /-- What a suspended caller knows about the steps of the others. -/
  rely : Nat → Moment service → Moment service → Prop
  rely_refl : ∀ caller moment, rely caller moment moment
  rely_trans : ∀ caller first second third,
    rely caller first second → rely caller second third → rely caller first third

namespace Contract

variable {service : Service} {Value Next : Type} (contract : Contract service) (caller : Nat)

/-- A step respects the contract: it keeps its promise, the invariant, and the rely of every
other caller. -/
structure Respects (step : Step service) : Prop where
  promised : contract.promised step
  invariant : contract.invariant step.after
  others : ∀ other, other ≠ step.caller → contract.rely other step.before step.after

/-- The caller's program respects the contract from this moment on and ends in `post`. -/
def Meets : Program service Value → (Except service.Failure Value → Moment service → Prop) →
    Moment service → Prop
  | .done value, post, moment => post (.ok value) moment
  | .failed failure, post, moment => post (.error failure) moment
  | .await op resume, post, moment =>
    ∀ before, contract.rely caller moment before → contract.invariant before →
      ∀ fate, contract.allowed ⟨before, caller, op, fate⟩ →
        contract.Respects ⟨before, caller, op, fate⟩ ∧
          Meets (resume (Step.mk before caller op fate).reply) post
            (Step.mk before caller op fate).after

variable {contract caller}

variable {program : Program service Value} {moment : Moment service}

/-! ### Rules for the program constructors -/

theorem Meets.mono {post weaker : Except service.Failure Value → Moment service → Prop}
    (implies : ∀ result moment, post result moment → weaker result moment)
    (meets : contract.Meets caller program post moment) :
    contract.Meets caller program weaker moment := by
  induction program generalizing moment with
  | done value => exact implies _ _ meets
  | failed failure => exact implies _ _ meets
  | await op resume inductionHypothesis =>
    intro before relied holds fate allowed
    obtain ⟨respects, rest⟩ := meets before relied holds fate allowed
    exact ⟨respects, inductionHypothesis _ rest⟩

theorem meets_bind (first : Program service Value) (next : Value → Program service Next)
    (post : Except service.Failure Next → Moment service → Prop) (moment : Moment service) :
    contract.Meets caller (first >>= next) post moment ↔
      contract.Meets caller first (fun
        | .ok value, reached => contract.Meets caller (next value) post reached
        | .error failure, reached => post (.error failure) reached) moment := by
  rw [Program.bind_eq]
  induction first generalizing moment with
  | done value => exact Iff.rfl
  | failed failure => exact Iff.rfl
  | await op resume inductionHypothesis =>
    simp only [Program.bind, Meets, inductionHypothesis]

theorem meets_recover (body : Program service Value)
    (handler : service.Failure → Program service Value)
    (post : Except service.Failure Value → Moment service → Prop) (moment : Moment service) :
    contract.Meets caller (body.recover handler) post moment ↔
      contract.Meets caller body (fun
        | .ok value, reached => post (.ok value) reached
        | .error failure, reached => contract.Meets caller (handler failure) post reached)
        moment := by
  induction body generalizing moment with
  | done value => exact Iff.rfl
  | failed failure => exact Iff.rfl
  | await op resume inductionHypothesis =>
    simp only [Program.recover, Meets, inductionHypothesis]

variable {result : Except service.Failure Value}

theorem Meets.ended {post : Except service.Failure Value → Moment service → Prop}
    (ended : program.result? = some result) (meets : contract.Meets caller program post moment) :
    post result moment := by
  cases program with
  | done value =>
    cases ended
    exact meets
  | failed failure =>
    cases ended
    exact meets
  | await op resume => cases ended

/-! ### Triples -/

variable (contract caller)

/-- From every moment in `pre` the program meets the contract and ends in `post`. -/
def Triple (pre : Moment service → Prop) (program : Program service Value)
    (post : Except service.Failure Value → Moment service → Prop) : Prop :=
  ∀ moment, pre moment → contract.Meets caller program post moment

/-- An assertion that survives whatever the others do while the caller is suspended. -/
def Stable (assertion : Moment service → Prop) : Prop :=
  ∀ moment later, assertion moment → contract.rely caller moment later →
    contract.invariant later → assertion later

/-- One assertion for a return, another for a throw. -/
def outcome (returns : Value → Moment service → Prop)
    (throws : service.Failure → Moment service → Prop) :
    Except service.Failure Value → Moment service → Prop
  | .ok value => returns value
  | .error failure => throws failure

/-- Nothing is known of the end. -/
abbrev anyOutcome : Except service.Failure Value → Moment service → Prop :=
  outcome (fun _ _ => True) fun _ _ => True

/-- The same as a triple, of a program whose throws do not matter. -/
abbrev Yields (pre : Moment service → Prop) (program : Program service Value)
    (returns : Value → Moment service → Prop) : Prop :=
  contract.Triple caller pre program (outcome returns fun _ _ => True)

variable {contract caller}

variable {pre : Moment service → Prop} {returns : Value → Moment service → Prop}
  {throws : service.Failure → Moment service → Prop}

@[simp] theorem outcome_ok (value : Value) :
    outcome returns throws (.ok value) = returns value := rfl

@[simp] theorem outcome_error (failure : service.Failure) :
    outcome returns throws (.error failure) = throws failure := rfl

theorem outcome_intro (returned : ∀ value, result = .ok value → returns value moment)
    (thrown : ∀ failure, result = .error failure → throws failure moment) :
    outcome returns throws result moment := by
  cases result with
  | ok value => exact returned value rfl
  | error failure => exact thrown failure rfl

theorem Triple.weaken {stronger : Moment service → Prop}
    {post weaker : Except service.Failure Value → Moment service → Prop}
    (triple : contract.Triple caller pre program post)
    (strengthen : ∀ moment, stronger moment → pre moment)
    (implies : ∀ result moment, post result moment → weaker result moment) :
    contract.Triple caller stronger program weaker :=
  fun moment holds => (triple moment (strengthen moment holds)).mono implies

/-- The same, when only what is known of a throw is weakened. -/
theorem Triple.throwing {weaker : service.Failure → Moment service → Prop}
    (triple : contract.Triple caller pre program (outcome returns throws))
    (implies : ∀ failure moment, throws failure moment → weaker failure moment) :
    contract.Triple caller pre program (outcome returns weaker) := by
  refine triple.weaken (fun _ holds => holds) fun result moment post => ?_
  cases result with
  | ok value => exact post
  | error failure => exact implies failure moment post

theorem Yields.weaken {stronger : Moment service → Prop} {weaker : Value → Moment service → Prop}
    (yields : contract.Yields caller pre program returns)
    (strengthen : ∀ moment, stronger moment → pre moment)
    (implies : ∀ value moment, returns value moment → weaker value moment) :
    contract.Yields caller stronger program weaker := by
  refine Triple.weaken yields strengthen fun result moment post => ?_
  cases result with
  | ok value => exact implies value moment post
  | error failure => trivial

/-- A fact in the precondition that does not depend on the moment may be assumed. -/
theorem Triple.given {fact : Prop} {post : Except service.Failure Value → Moment service → Prop}
    (triple : fact → contract.Triple caller pre program post) :
    contract.Triple caller (fun moment => fact ∧ pre moment) program post :=
  fun moment holds => triple holds.1 moment holds.2

/-- The same, when nothing else is known. -/
theorem Triple.fact {fact : Prop} {post : Except service.Failure Value → Moment service → Prop}
    (triple : fact → contract.Triple caller (fun _ => True) program post) :
    contract.Triple caller (fun _ => fact) program post :=
  fun moment holds => triple holds moment trivial

theorem Triple.returning {expected : Value → Prop}
    (triple : contract.Triple caller pre program (outcome returns throws))
    (always : program.Returns expected) :
    contract.Triple caller pre program
      (outcome (fun value moment => expected value ∧ returns value moment) throws) := by
  have strengthen : ∀ {program : Program service Value} {moment : Moment service},
      program.Returns expected →
      contract.Meets caller program (outcome returns throws) moment →
      contract.Meets caller program
        (outcome (fun value moment => expected value ∧ returns value moment) throws) moment := by
    intro program moment always meets
    induction program generalizing moment with
    | done value => exact ⟨always, meets⟩
    | failed failure => exact meets
    | await op resume inductionHypothesis =>
      intro before relied holds fate isAllowed
      obtain ⟨respects, later⟩ := meets before relied holds fate isAllowed
      exact ⟨respects, inductionHypothesis _ (always _) later⟩
  exact fun moment holds => strengthen always (triple moment holds)

theorem Triple.done {value : Value} (implies : ∀ moment, pre moment → returns value moment) :
    contract.Triple caller pre (.done value) (outcome returns throws) :=
  implies

theorem Triple.failed {failure : service.Failure}
    (implies : ∀ moment, pre moment → throws failure moment) :
    contract.Triple caller pre (.failed failure) (outcome returns throws) :=
  implies

theorem Triple.bind {returnsNext : Next → Moment service → Prop}
    {first : Program service Value} {next : Value → Program service Next}
    (head : contract.Triple caller pre first (outcome returns throws))
    (tail : ∀ value, contract.Triple caller (returns value) (next value)
      (outcome returnsNext throws)) :
    contract.Triple caller pre (first >>= next) (outcome returnsNext throws) := by
  intro moment holds
  rw [meets_bind]
  refine (head moment holds).mono fun result reached post => ?_
  cases result with
  | ok value => exact tail value reached post
  | error failure => exact post

theorem Triple.recover {throwsInner : service.Failure → Moment service → Prop}
    {body : Program service Value} {handler : service.Failure → Program service Value}
    (tried : contract.Triple caller pre body (outcome returns throwsInner))
    (caught : ∀ failure, contract.Triple caller (throwsInner failure) (handler failure)
      (outcome returns throws)) :
    contract.Triple caller pre (body.recover handler) (outcome returns throws) := by
  intro moment holds
  rw [meets_recover]
  refine (tried moment holds).mono fun result reached post => ?_
  cases result with
  | ok value => exact post
  | error failure => exact caught failure reached post

theorem Triple.throwIf {condition : Prop} [Decidable condition] {failure : service.Failure}
    {returns : Unit → Moment service → Prop}
    (thrown : condition → ∀ moment, pre moment → throws failure moment)
    (passed : ¬ condition → ∀ moment, pre moment → returns () moment) :
    contract.Triple caller pre (Program.throwIf condition failure)
      (outcome returns throws) := by
  intro moment holds
  unfold Program.throwIf
  split
  · exact thrown ‹_› moment holds
  · exact passed ‹_› moment holds

theorem Triple.orThrow {value : Option Value} {failure : service.Failure}
    (absent : value = none → ∀ moment, pre moment → throws failure moment)
    (present : ∀ found, value = some found → ∀ moment, pre moment → returns found moment) :
    contract.Triple caller pre (Program.orThrow value failure) (outcome returns throws) := by
  intro moment holds
  cases value with
  | none => exact absent rfl moment holds
  | some found => exact present found rfl moment holds

/-- A loop over a list keeps an assertion that its body keeps. -/
theorem Triple.forEach {Item : Type} {body : Item → Program service Unit} {items : List Item}
    (each : ∀ item ∈ items,
      contract.Triple caller pre (body item) (outcome (fun _ => pre) throws)) :
    contract.Triple caller pre (Program.forEach body items)
      (outcome (fun _ => pre) throws) := by
  induction items with
  | nil => exact Triple.done fun _ holds => holds
  | cons item rest inductionHypothesis =>
    exact Triple.bind (each item List.mem_cons_self) fun _ =>
      inductionHypothesis fun other member => each other (List.mem_cons_of_mem _ member)

/-- The rule for one awaited operation. -/
theorem Triple.perform {op : service.Op}
    {returns : service.Result op → Moment service → Prop}
    (stable : contract.Stable caller pre)
    (answered : ∀ before fate, pre before → contract.invariant before →
      contract.allowed ⟨before, caller, op, fate⟩ →
      contract.Respects ⟨before, caller, op, fate⟩ ∧
        outcome returns throws (Step.mk before caller op fate).reply
          (Step.mk before caller op fate).after) :
    contract.Triple caller pre (Program.perform op) (outcome returns throws) := by
  intro moment holds before relied invariant fate allowed
  obtain ⟨respects, post⟩ :=
    answered before fate (stable moment before holds relied invariant) invariant allowed
  refine ⟨respects, ?_⟩
  cases reply : (Step.mk before caller op fate).reply with
  | ok result =>
    rw [reply] at post
    exact post
  | error failure =>
    rw [reply] at post
    exact post

theorem outcome_const {assertion : Moment service → Prop} :
    outcome (fun _ => assertion) (fun _ => assertion) result moment ↔ assertion moment := by
  cases result <;> exact Iff.rfl

/-- A program keeps an assertion that each of its operations keeps. -/
theorem Triple.only {permitted : service.Op → Prop} {assertion : Moment service → Prop}
    (each : ∀ op, permitted op → contract.Triple caller assertion (Program.perform op)
      (outcome (fun _ => assertion) fun _ => assertion)) (only : program.Only permitted) :
    contract.Triple caller assertion program
      (outcome (fun _ => assertion) fun _ => assertion) := by
  induction program with
  | done value => exact Triple.done fun _ holds => holds
  | failed failure => exact Triple.failed fun _ holds => holds
  | await op resume inductionHypothesis =>
    intro moment holds before relied invariant fate allowed
    obtain ⟨respects, kept⟩ := each op only.1 moment holds before relied invariant fate allowed
    refine ⟨respects, inductionHypothesis _ (only.2 _) _ ?_⟩
    cases reply : (Step.mk before caller op fate).reply with
    | ok result =>
      rw [reply] at kept
      exact kept
    | error failure =>
      rw [reply] at kept
      exact kept

/-! ### Soundness -/

theorem Meets.later {post : Except service.Failure Value → Moment service → Prop}
    (stable : ∀ result, contract.Stable caller (post result)) {later : Moment service}
    (meets : contract.Meets caller program post moment) (relied : contract.rely caller moment later)
    (invariant : contract.invariant later) :
    contract.Meets caller program post later := by
  cases program with
  | done value => exact stable (.ok value) moment later meets relied invariant
  | failed failure => exact stable (.error failure) moment later meets relied invariant
  | await op resume =>
    intro before reliedAgain
    exact meets before (contract.rely_trans caller _ _ _ relied reliedAgain)

/-- Every call of the system meets the contract at the moment the system has reached, and ends
in its own assertion. -/
structure Holds (contract : Contract service)
    (post : Nat → Except service.Failure Value → Moment service → Prop)
    (system : System service Value) : Prop where
  invariant : contract.invariant system.moment
  calls : ∀ caller program, system.calls[caller]? = some program →
    contract.Meets caller program (post caller) system.moment

variable {post : Nat → Except service.Failure Value → Moment service → Prop}

variable {system : System service Value}

theorem Holds.ended (holds : contract.Holds post system) {caller : Nat}
    (ended : system.calls[caller]?.bind Program.result? = some result) :
    post caller result system.moment := by
  obtain ⟨program, found, returned⟩ := Option.bind_eq_some_iff.mp ended
  have met := holds.calls caller program found
  cases program with
  | done value =>
    cases returned
    exact met
  | failed failure =>
    cases returned
    exact met
  | await op resume => cases returned

theorem Holds.turn (stable : ∀ caller result, contract.Stable caller (post caller result))
    (holds : contract.Holds post system) (turn : Turn service)
    (allowed : ∀ step, system.step? turn = some step → contract.allowed step) :
    contract.Holds post (system.turn turn) ∧
      ∀ step, system.step? turn = some step → contract.Respects step := by
  cases found : system.calls[turn.caller]? with
  | none =>
    simp only [System.turn, System.step?, found]
    exact ⟨holds, fun _ impossible => by cases impossible⟩
  | some program =>
    cases program with
    | done value =>
      simp only [System.turn, System.step?, found]
      exact ⟨holds, fun _ impossible => by cases impossible⟩
    | failed failure =>
      simp only [System.turn, System.step?, found]
      exact ⟨holds, fun _ impossible => by cases impossible⟩
    | await op resume =>
      have stepIs : system.step? turn =
          some ⟨system.moment, turn.caller, op, turn.fate op⟩ := by
        simp only [System.step?, found]
      obtain ⟨respects, resumed⟩ := holds.calls turn.caller _ found system.moment
        (contract.rely_refl _ _) holds.invariant (turn.fate op) (allowed _ stepIs)
      refine ⟨⟨?_, ?_⟩, ?_⟩
      · simp only [System.turn, found]
        exact respects.invariant
      · intro caller program
        simp only [System.turn, found]
        by_cases same : caller = turn.caller
        · subst same
          have bound : turn.caller < system.calls.length :=
            (List.getElem?_eq_some_iff.mp found).1
          rw [List.getElem?_set_self bound]
          intro equal
          cases equal
          exact resumed
        · rw [List.getElem?_set_ne (Ne.symm same)]
          intro other
          exact (holds.calls caller program other).later (stable caller)
            (respects.others caller same) respects.invariant
      · intro step equal
        rw [stepIs] at equal
        cases equal
        exact respects

/-- If every call meets the contract, every schedule whose steps are allowed keeps the
invariant and every call's assertion to its end and the contract in each of its steps. -/
theorem sound {system : System service Value}
    (stable : ∀ caller result, contract.Stable caller (post caller result))
    (holds : contract.Holds post system) (turns : List (Turn service))
    (allowed : ∀ step ∈ system.steps turns, contract.allowed step) :
    contract.Holds post (system.run turns) ∧
      ∀ step ∈ system.steps turns, contract.Respects step := by
  induction turns generalizing system with
  | nil => exact ⟨holds, fun _ member => by cases member⟩
  | cons turn rest inductionHypothesis =>
    simp only [System.steps, List.mem_append, Option.mem_toList] at allowed ⊢
    obtain ⟨next, respects⟩ := holds.turn stable turn fun step taken =>
      allowed step (Or.inl taken)
    obtain ⟨last, later⟩ := inductionHypothesis next fun step member =>
      allowed step (Or.inr member)
    refine ⟨last, fun step member => ?_⟩
    rcases member with taken | member
    · exact respects step taken
    · exact later step member

theorem Holds.follow (holds : contract.Holds (fun _ _ _ => True) system)
    {post : Except service.Failure Value → Moment service → Prop}
    (stable : ∀ result, contract.Stable caller (post result))
    (meets : ∀ program, system.calls[caller]? = some program →
      contract.Meets caller program post system.moment) (turns : List (Turn service))
    (allowed : ∀ step ∈ system.steps turns, contract.allowed step)
    (ended : (system.run turns).calls[caller]?.bind Program.result? = some result) :
    post result (system.run turns).moment := by
  have stables : ∀ other result,
      contract.Stable other fun moment => other = caller → post result moment := by
    intro other result moment later known relied invariant isCaller
    subst isCaller
    exact stable result moment later (known rfl) relied invariant
  have holdsToo : contract.Holds (fun other result moment => other = caller → post result moment)
      system := by
    refine ⟨holds.invariant, fun other program found => ?_⟩
    by_cases isCaller : other = caller
    · subst isCaller
      exact (meets program found).mono fun _ _ known _ => known
    · exact (holds.calls other program found).mono fun _ _ _ same => absurd same isCaller
  exact (sound stables holdsToo turns allowed).1.ended ended rfl

/-! ### Fewer steps -/

/-- The same contract about fewer steps. -/
def narrow (contract : Contract service) (allowed : Step service → Prop) : Contract service :=
  { contract with allowed := allowed }

theorem Meets.narrow {allowed : Step service → Prop}
    (implies : ∀ step, allowed step → contract.allowed step) {program : Program service Value}
    {post : Except service.Failure Value → Moment service → Prop} {moment : Moment service}
    (meets : contract.Meets caller program post moment) :
    (contract.narrow allowed).Meets caller program post moment := by
  induction program generalizing moment with
  | done value => exact meets
  | failed failure => exact meets
  | await op resume inductionHypothesis =>
    intro before relied holds fate isAllowed
    obtain ⟨respects, rest⟩ := meets before relied holds fate (implies _ isAllowed)
    exact ⟨⟨respects.promised, respects.invariant, respects.others⟩, inductionHypothesis _ rest⟩

theorem Holds.narrow {allowed : Step service → Prop}
    (implies : ∀ step, allowed step → contract.allowed step) {system : System service Value}
    (holds : contract.Holds post system) : (contract.narrow allowed).Holds post system :=
  ⟨holds.invariant, fun caller program found => (holds.calls caller program found).narrow implies⟩

/-! ### One call alone -/

/-- The contract of a call that no other interrupts. -/
def alone (allowed promised : Step service → Prop) (invariant : Moment service → Prop) :
    Contract service where
  allowed := allowed
  promised := promised
  invariant := invariant
  rely caller first second := caller = 0 → second = first
  rely_refl _ _ _ := rfl
  rely_trans _ _ _ _ head tail isCaller := (tail isCaller).trans (head isCaller)

variable {allowed promised : Step service → Prop} {invariant : Moment service → Prop}

theorem alone_stable (assertion : Moment service → Prop) :
    (alone allowed promised invariant).Stable 0 assertion := by
  intro moment later holds relied _
  rw [relied rfl]
  exact holds

theorem alone_respects {step : Step service} (isCaller : step.caller = 0)
    (keeps : promised step) (reached : invariant step.after) :
    (alone allowed promised invariant).Respects step where
  promised := keeps
  invariant := reached
  others _ different isOther := absurd (isOther.trans isCaller.symm) different

/-- The rule for one awaited operation of an uninterrupted call. -/
theorem Triple.alone {op : service.Op} {pre : Moment service → Prop}
    {returns : service.Result op → Moment service → Prop}
    {throws : service.Failure → Moment service → Prop}
    (answered : ∀ before fate, pre before → invariant before →
      allowed ⟨before, 0, op, fate⟩ →
      promised ⟨before, 0, op, fate⟩ ∧ invariant (Step.mk before 0 op fate).after ∧
        outcome returns throws (Step.mk before 0 op fate).reply
          (Step.mk before 0 op fate).after) :
    (alone allowed promised invariant).Triple 0 pre (Program.perform op)
      (outcome returns throws) := by
  refine Triple.perform (alone_stable pre) fun before fate holds reached isAllowed => ?_
  obtain ⟨keeps, after, post⟩ := answered before fate holds reached isAllowed
  exact ⟨alone_respects rfl keeps after, post⟩

theorem sound_alone {state : service.State}
    {post : Except service.Failure Value → Moment service → Prop} (start : invariant ⟨state, []⟩)
    (triple : (Contract.alone allowed promised invariant).Triple 0
      (fun moment => moment = ⟨state, []⟩) program post) (turns : List (Turn service))
    (isAllowed : ∀ step ∈ (System.solo state program).steps turns, allowed step) :
    (Contract.alone allowed promised invariant).Holds (fun caller result moment => caller = 0 →
        post result moment) ((System.solo state program).run turns) ∧
      ∀ step ∈ (System.solo state program).steps turns, promised step := by
  have stable : ∀ caller result, (Contract.alone allowed promised invariant).Stable caller
      fun moment => caller = 0 → post result moment := by
    intro caller result moment later holds relied _ isCaller
    rw [relied isCaller]
    exact holds isCaller
  have holds : (Contract.alone allowed promised invariant).Holds (fun caller result moment =>
      caller = 0 → post result moment) (System.solo state program) := by
    refine ⟨start, fun caller suspended found => ?_⟩
    cases caller with
    | zero =>
      cases found
      exact (triple _ rfl).mono fun _ _ post _ => post
    | succ other => cases found
  obtain ⟨last, respects⟩ := sound stable holds turns isAllowed
  exact ⟨last, fun step member => (respects step member).promised⟩

end Contract

end Async
