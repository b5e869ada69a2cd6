/-
This file settles when the priors learn the outcome of every signal exactly once: in
the runs in which nothing is learned. A signal teaches the components that made it, in the
rows that the ensemble read for them, those of one minute; the updater writes rows of one hour
under the names of the fields of the rationale. So no outcome of a signal that has a
component with a direction can be written, and no update of a prior can take effect,
without breaking the law.

Besides, an outcome says whether the price rose and not whether the signal was right, and the
updater never gets past five hundred signals whose bars are missing.
-/

import GdslExchange.Signals.PriorUpdater

namespace GdslExchange.Signals.PriorUpdater

open Async Async.Program

/-! ### What a signal should teach -/

/-- An observation of a source, the first one included. -/
def learnCell (key : PriorKey) (dir : Direction) (actualUp : Bool) (priors : Priors) : Priors :=
  Function.update priors key (some (((priors key).getD .created).learn dir actualUp))

/-- A component that is not neutral is an observation of the row that the ensemble of one minute
read for it. -/
def teachComponent (symbol : String) (actualUp : Bool) (priors : Priors)
    (component : String × Direction) : Priors :=
  if component.2 = .neutral then priors
  else learnCell ⟨component.1, symbol, "1m"⟩ component.2 actualUp priors

def teach (priors : Priors) (signal : Signal) : Priors :=
  match signal.resolution with
  | none => priors
  | some resolution =>
    signal.decision.components.entries.foldl
      (teachComponent signal.symbol resolution.bar.actualUp) priors

/-- Every signal that has an outcome has taught its components once, and nothing else has changed
a prior. -/
def Desk.Taught (desk : Desk) : Prop := desk.priors = desk.signals.foldl teach desk.base

def Agrees (dir : Direction) (actualUp : Bool) : Prop := dir = if actualUp then .up else .down

/-- An outcome is a win if the direction of the signal agreed with the move. -/
def Desk.Judged (desk : Desk) : Prop :=
  ∀ signal ∈ desk.signals, ∀ resolution ∈ signal.resolution,
    (resolution.outcome = .win ↔ Agrees signal.decision.direction resolution.bar.actualUp)

def Desk.HasBar (desk : Desk) (sig : Stored Signal) : Prop :=
  (desk.nextBar sig.row.symbol sig.row.ts).isSome

instance (desk : Desk) : DecidablePred desk.HasBar := fun _ =>
  inferInstanceAs (Decidable (_ = true))

/-- Signals without their bars stop no others: if some signal can be resolved, one of the batch
can. -/
def Desk.Unstarved (desk : Desk) (now : ℕ) : Prop :=
  (∃ sig ∈ desk.due now, desk.HasBar sig) → ∃ sig ∈ desk.unresolved now, desk.HasBar sig

/-- At the end of a run the priors are as its outcomes teach them; in all of it the outcomes were
right, and no query starved a signal. -/
structure Lawful (system : System tables Unit) (turns : List (Turn tables)) : Prop where
  taught : (system.run turns).moment.state.Taught
  judged : ∀ step ∈ system.steps turns, step.after.state.Judged
  unstarved : ∀ step ∈ system.steps turns, ∀ now, step.op = .findUnresolved now →
    step.before.state.Unstarved now

/-! ### When it does -/

/-- None of the components says anything. -/
def Decision.Silent (decision : Decision) : Prop :=
  ∀ component ∈ decision.components.entries, component.2 = .neutral

/-- An UP, or no direction when the price fell. -/
def Decision.Fits (decision : Decision) (actualUp : Bool) : Prop :=
  decision.direction = .up ∨ (decision.direction = .neutral ∧ actualUp = false)

/-- Fewer than 500 signals that cannot be resolved come before the first that can. -/
def Desk.Uncrowded (desk : Desk) (now : ℕ) : Prop :=
  (∃ sig ∈ desk.due now, desk.HasBar sig) →
    ((desk.due now).takeWhile fun sig => ¬ desk.HasBar sig).length < 500

/-- An outcome is written only of a signal whose components are silent, and which is an UP or
undirected when the price falls; no update of a prior takes effect; and no crowd of signals that
cannot be resolved comes first. -/
def Orderly (step : Step tables) : Prop :=
  match step.op with
  | .findUnresolved now => step.before.state.Uncrowded now
  | .updateSignal id bar => Delivery.Applies step.fate →
    ∀ signal ∈ step.before.state.signals[id]?,
      signal.decision.Silent ∧ signal.decision.Fits bar.actualUp
  | .upsertPrior _ _ _ => ¬ Delivery.Applies step.fate
  | _ => True

/-! ### Weights of rows -/

/-- The observations of a row; a row that is not there weighs less than any. -/
def weight (prior : Option BayesPrior) : WithBot ℚ :=
  prior.elim ⊥ fun row => ↑(row.alphaUp + row.betaUp + row.alphaDown + row.betaDown)

theorem weight_learn (prior : BayesPrior) (dir : Direction) (actualUp : Bool) :
    weight (some prior) < weight (some (prior.learn dir actualUp)) := by
  refine WithBot.coe_lt_coe.mpr ?_
  unfold BayesPrior.learn
  cases dir <;> cases actualUp <;> simp

/-- The first observation of a row counts as much as any. -/
theorem weight_observed (prior : Option BayesPrior) (dir : Direction) (actualUp : Bool) :
    weight prior < weight (some ((prior.getD .created).learn dir actualUp)) := by
  cases prior with
  | none => exact WithBot.bot_lt_coe _
  | some row => exact weight_learn row dir actualUp

/-- The upsert of the updater changes its row, too. -/
theorem weight_upserted (prior : Option BayesPrior) (dir : Direction) (actualUp : Bool) :
    weight prior < weight (some ((prior.map (BayesPrior.learn dir actualUp)).getD .created)) := by
  cases prior with
  | none => exact WithBot.bot_lt_coe _
  | some row => exact weight_learn row dir actualUp

theorem weight_learnCell (key other : PriorKey) (dir : Direction) (actualUp : Bool)
    (priors : Priors) : weight (priors other) ≤ weight (learnCell key dir actualUp priors other) := by
  unfold learnCell
  by_cases same : other = key
  · rw [same, Function.update_self]
    exact (weight_observed _ dir actualUp).le
  · rw [Function.update_of_ne same]

/-! ### Teaching adds weight -/

section Teaching

variable {symbol : String} {actualUp : Bool} {key : PriorKey}

theorem weight_teachComponent (priors : Priors) (component : String × Direction) :
    weight (priors key) ≤ weight (teachComponent symbol actualUp priors component key) := by
  unfold teachComponent
  split
  · exact le_rfl
  · exact weight_learnCell _ _ _ _ _

theorem weight_components (components : List (String × Direction)) (priors : Priors) :
    weight (priors key) ≤
      weight (components.foldl (teachComponent symbol actualUp) priors key) := by
  induction components generalizing priors with
  | nil => exact le_rfl
  | cons component rest inductionHypothesis =>
    exact (weight_teachComponent priors component).trans (inductionHypothesis _)

theorem weight_component_lt {components : List (String × Direction)}
    {component : String × Direction} (member : component ∈ components)
    (directed : component.2 ≠ .neutral) (priors : Priors) :
    weight (priors ⟨component.1, symbol, "1m"⟩) <
      weight (components.foldl (teachComponent symbol actualUp) priors
        ⟨component.1, symbol, "1m"⟩) := by
  induction components generalizing priors with
  | nil => cases member
  | cons first rest inductionHypothesis =>
    rcases List.mem_cons.mp member with same | later
    · subst same
      refine lt_of_lt_of_le ?_ (weight_components rest _)
      unfold teachComponent learnCell
      rw [if_neg directed, Function.update_self]
      exact weight_observed _ _ _
    · exact lt_of_le_of_lt (weight_teachComponent priors first) (inductionHypothesis later _)

theorem weight_teach (priors : Priors) (signal : Signal) :
    weight (priors key) ≤ weight (teach priors signal key) := by
  unfold teach
  cases signal.resolution with
  | none => exact le_rfl
  | some resolution => exact weight_components _ priors

theorem weight_signals (signals : List Signal) (priors : Priors) :
    weight (priors key) ≤ weight (signals.foldl teach priors key) := by
  induction signals generalizing priors with
  | nil => exact le_rfl
  | cons signal rest inductionHypothesis =>
    exact (weight_teach priors signal).trans (inductionHypothesis _)

theorem weight_signal_lt {signals : List Signal} {signal : Signal} (member : signal ∈ signals)
    {resolution : Resolution} (isResolved : signal.resolution = some resolution)
    {component : String × Direction} (directed : component.2 ≠ .neutral)
    (isComponent : component ∈ signal.decision.components.entries) (priors : Priors) :
    weight (priors ⟨component.1, signal.symbol, "1m"⟩) <
      weight (signals.foldl teach priors ⟨component.1, signal.symbol, "1m"⟩) := by
  induction signals generalizing priors with
  | nil => cases member
  | cons first rest inductionHypothesis =>
    rcases List.mem_cons.mp member with same | later
    · subst same
      refine lt_of_lt_of_le ?_ (weight_signals rest _)
      unfold teach
      rw [isResolved]
      exact weight_component_lt isComponent directed priors
    · exact lt_of_le_of_lt (weight_teach priors first) (inductionHypothesis later _)

theorem foldl_teach_elsewhere (elsewhere : key.interval ≠ "1m") (signals : List Signal)
    (priors : Priors) : signals.foldl teach priors key = priors key := by
  have component (symbol : String) (up : Bool) (priors : Priors)
      (component : String × Direction) :
      teachComponent symbol up priors component key = priors key := by
    unfold teachComponent
    split
    · rfl
    · exact Function.update_of_ne (fun isKey => elsewhere (congrArg PriorKey.interval isKey)) _ _
  have each (symbol : String) (up : Bool) (components : List (String × Direction))
      (priors : Priors) :
      components.foldl (teachComponent symbol up) priors key = priors key := by
    induction components generalizing priors with
    | nil => rfl
    | cons first rest inductionHypothesis =>
      exact (inductionHypothesis _).trans (component symbol up priors first)
  induction signals generalizing priors with
  | nil => rfl
  | cons signal rest inductionHypothesis =>
    refine (inductionHypothesis _).trans ?_
    unfold teach
    cases signal.resolution with
    | none => rfl
    | some resolution => exact each _ _ _ priors

theorem teach_silent {signal : Signal} (silent : signal.decision.Silent) (priors : Priors) :
    teach priors signal = priors := by
  have unchanged (up : Bool) (components : List (String × Direction))
      (each : ∀ component ∈ components, component.2 = .neutral) :
      components.foldl (teachComponent signal.symbol up) priors = priors := by
    induction components with
    | nil => rfl
    | cons component rest inductionHypothesis =>
      rw [List.foldl_cons, teachComponent, if_pos (each component List.mem_cons_self)]
      exact inductionHypothesis fun other member => each other (List.mem_cons_of_mem _ member)
  unfold teach
  split
  · rfl
  · exact unchanged _ _ silent

theorem foldl_teach_silent {signals : List Signal}
    (silent : ∀ signal ∈ signals, signal.resolution.isSome → signal.decision.Silent)
    (priors : Priors) : signals.foldl teach priors = priors := by
  induction signals with
  | nil => rfl
  | cons signal rest inductionHypothesis =>
    have first : teach priors signal = priors := by
      cases isResolved : signal.resolution with
      | none =>
        unfold teach
        rw [isResolved]
      | some resolution =>
        exact teach_silent (silent signal List.mem_cons_self (by rw [isResolved]; rfl)) priors
    rw [List.foldl_cons, first]
    exact inductionHypothesis fun other member => silent other (List.mem_cons_of_mem _ member)

end Teaching

/-- The outcome that the updater writes is right of a signal that fits the move. -/
theorem outcome_iff (decision : Decision) (bar : Kline) :
    (bar.outcome = .win ↔ Agrees decision.direction bar.actualUp) ↔
      decision.Fits bar.actualUp := by
  unfold Kline.outcome Agrees Decision.Fits
  cases bar.actualUp <;> cases decision.direction <;> decide

/-! ### The rows of the updater -/

def fields : List String :=
  ["pUp", "threshold", "regime", "adxValue", "bayesDirection", "rlAction", "obi", "obiBlocked",
    "blocked", "components"]

/-- The updater writes rows of one hour under the names of fields, an ensemble those of its
sources. -/
def Own : Op → Prop
  | .upsertPrior key _ _ => key.interval = "1h" ∧ key.signalSource ∈ fields
  | .getPrior key => key.signalSource ∈ sources
  | _ => True

theorem own_call (request : Request) : request.call.Only Own := by
  cases request with
  | update now =>
    refine only_then trivial fun unresolved => only_forEach fun sig _ => ?_
    refine only_recover (only_then trivial fun nextBar => ?_) fun _ => trivial
    cases nextBar with
    | none => trivial
    | some bar =>
      refine only_then trivial fun _ => only_forEach fun entry member => ?_
      have isField : entry.1 ∈ fields := @List.mem_map_of_mem _ _ _ _ Prod.fst member
      refine only_recover ?_ fun _ => trivial
      unfold updatePrior
      split
      · trivial
      · exact only_perform ⟨rfl, isField⟩
  | decide symbol ts decision => exact only_recover (only_perform trivial) fun _ => trivial
  | ensemble symbol interval =>
    exact only_forEach fun name listed =>
      only_recover (only_perform listed) fun _ => trivial
  | store bar => exact only_perform trivial

theorem own_of_mem_steps (priors : Priors) (requests : List Request)
    (turns : List (Turn tables)) :
    ∀ step ∈ (learningSystem priors requests).steps turns, Own step.op :=
  System.permitted_of_only (System.each_call fun _ request => own_call request) turns

theorem not_field {source : String} (listed : source ∈ sources) : source ∉ fields := by
  have apart : ∀ name ∈ sources, name ∉ fields := by decide
  exact apart source listed

/-! ### Steps -/

/-- What an operation does if it takes effect. -/
def Op.effect : Op → Desk → Desk
  | .updateSignal id bar, desk => desk.resolve id bar
  | .upsertPrior key dir actualUp, desk => desk.learn key dir actualUp
  | .createSignal symbol ts decision, desk => desk.create symbol ts decision
  | .getPrior key, desk => desk.read key
  | .storeKline bar, desk => desk.store bar
  | _, desk => desk

theorem state_after (step : Step tables) : step.after.state =
    if Delivery.Applies step.fate then step.op.effect step.before.state
    else step.before.state := by
  obtain ⟨before, caller, op, fate⟩ := step
  cases op with
  | findUnresolved now => exact (ite_self _).symm
  | findNextBar symbol ts => exact (ite_self _).symm
  | _ => rfl

theorem after_of_effect {holds : Desk → Prop} {step : Step tables}
    (before : holds step.before.state)
    (effect : Delivery.Applies step.fate → holds (step.op.effect step.before.state)) :
    holds step.after.state := by
  rw [state_after]
  split
  · exact effect ‹_›
  · exact before

/-- What the updater leaves of the priors: all but those of one hour as they would be, and none
that is not of a source with fewer observations. -/
structure Desk.Grown (desk : Desk) : Prop where
  minutes : ∀ key : PriorKey, key.interval ≠ "1h" → desk.priors key = desk.base key
  fields : ∀ key : PriorKey, key.signalSource ∉ sources →
    weight (desk.base key) ≤ weight (desk.priors key)

variable {desk : Desk}

theorem grown_learn (grown : desk.Grown) {key : PriorKey} (isHour : key.interval = "1h")
    (dir : Direction) (actualUp : Bool) :
    (desk.learn key dir actualUp).Grown := by
  refine ⟨fun other notHour => ?_, fun other notSource => ?_⟩
  · have different : other ≠ key := fun same => notHour (same ▸ isHour)
    exact (upsert_other different _ _).trans (grown.minutes other notHour)
  · refine (grown.fields other notSource).trans ?_
    show weight (desk.priors other) ≤ weight (upsert key _ desk.priors other)
    by_cases same : other = key
    · rw [same, upsert_self]
      exact (weight_upserted _ dir actualUp).le
    · rw [upsert_other same]

theorem grown_read (grown : desk.Grown) {key : PriorKey} (isSource : key.signalSource ∈ sources) :
    (desk.read key).Grown := by
  refine ⟨fun other notHour => ?_, fun other notSource => ?_⟩
  · show upsert key id desk.priors other = upsert key id desk.base other
    have same := grown.minutes other notHour
    by_cases isKey : other = key
    · rw [← isKey, upsert_self, upsert_self, same]
    · rw [upsert_other isKey, upsert_other isKey, same]
  · have different : other ≠ key := fun same => notSource (same ▸ isSource)
    show weight (upsert key id desk.base other) ≤ weight (upsert key id desk.priors other)
    rw [upsert_other different, upsert_other different]
    exact grown.fields other notSource

variable {step : Step tables}

theorem grown_step (own : Own step.op) (grown : step.before.state.Grown) :
    step.after.state.Grown := by
  refine after_of_effect grown fun _ => ?_
  obtain ⟨before, caller, op, fate⟩ := step
  cases op with
  | upsertPrior key dir actualUp => exact grown_learn grown own.1 dir actualUp
  | getPrior key => exact grown_read grown own
  | _ => exact ⟨grown.minutes, grown.fields⟩

/-- A row has more observations than it would have. -/
def Desk.Outgrown (key : PriorKey) (desk : Desk) : Prop :=
  weight (desk.base key) < weight (desk.priors key)

/-- An upsert of a row of the updater is never undone. -/
theorem outgrown_step (own : Own step.op) {key : PriorKey} (isField : key.signalSource ∈ fields)
    (outgrown : step.before.state.Outgrown key) :
    step.after.state.Outgrown key := by
  refine @after_of_effect (Desk.Outgrown key) step outgrown fun _ => ?_
  obtain ⟨before, caller, op, fate⟩ := step
  cases op with
  | upsertPrior other dir actualUp =>
    refine outgrown.trans_le ?_
    show weight (before.state.priors key) ≤ weight (upsert other _ before.state.priors key)
    by_cases same : key = other
    · rw [same, upsert_self]
      exact (weight_upserted _ dir actualUp).le
    · rw [upsert_other same]
  | getPrior other =>
    have different : key ≠ other := fun same => not_field own (same ▸ isField)
    show weight (upsert other id before.state.base key) <
      weight (upsert other id before.state.priors key)
    rw [upsert_other different, upsert_other different]
    exact outgrown
  | _ => exact outgrown

/-- A row of the updater that is upserted has more observations than it would have. -/
theorem outgrown_of_upsert (grown : step.before.state.Grown) {key : PriorKey} {dir : Direction}
    {actualUp : Bool} (isUpsert : step.op = .upsertPrior key dir actualUp)
    (isField : key.signalSource ∈ fields) (applies : Delivery.Applies step.fate) :
    step.after.state.Outgrown key := by
  have notSource : key.signalSource ∉ sources := fun listed => not_field listed isField
  rw [state_after, if_pos applies, isUpsert]
  refine lt_of_le_of_lt (grown.fields key notSource) ?_
  show weight (step.before.state.priors key) < weight (upsert key _ step.before.state.priors key)
  rw [upsert_self]
  exact weight_upserted _ dir actualUp

/-- Every row is kept, and has at least as many observations of each kind. -/
def KeepsRows (priors later : Priors) : Prop :=
  ∀ key, ∀ row ∈ priors key, ∃ kept ∈ later key, row.alphaUp ≤ kept.alphaUp ∧
    row.betaUp ≤ kept.betaUp ∧ row.alphaDown ≤ kept.alphaDown ∧ row.betaDown ≤ kept.betaDown

theorem keepsRows_upsert {priors later : Priors} (keeps : KeepsRows priors later) (key : PriorKey)
    {update : BayesPrior → BayesPrior} (grows : ∀ row, row.alphaUp ≤ (update row).alphaUp ∧
      row.betaUp ≤ (update row).betaUp ∧ row.alphaDown ≤ (update row).alphaDown ∧
      row.betaDown ≤ (update row).betaDown) :
    KeepsRows priors (upsert key update later) := by
  intro other row isRow
  obtain ⟨kept, isKept, up, notUp, down, notDown⟩ := keeps other row isRow
  by_cases same : other = key
  · obtain ⟨moreUp, moreNotUp, moreDown, moreNotDown⟩ := grows kept
    refine ⟨update kept, ?_, up.trans moreUp, notUp.trans moreNotUp, down.trans moreDown,
      notDown.trans moreNotDown⟩
    rw [← same, upsert_self, show later other = some kept from isKept]
    rfl
  · refine ⟨kept, ?_, up, notUp, down, notDown⟩
    rwa [upsert_other same]

/-- A signal has an outcome. -/
def Desk.Resolved (id : ℕ) (decision : Decision) (desk : Desk) : Prop :=
  ∃ signal, desk.signals[id]? = some signal ∧ signal.decision = decision ∧
    signal.resolution.isSome

theorem resolved_step {id : ℕ} {decision : Decision}
    (resolved : step.before.state.Resolved id decision) :
    step.after.state.Resolved id decision := by
  refine @after_of_effect (Desk.Resolved id decision) step resolved fun _ => ?_
  obtain ⟨signal, isSignal, isDecision, isSome⟩ := resolved
  obtain ⟨before, caller, op, fate⟩ := step
  cases op with
  | updateSignal other bar =>
    refine ⟨if other = id then { signal with resolution := some ⟨bar.outcome, bar.retPct, bar⟩ }
      else signal, ?_, ?_, ?_⟩
    · show (before.state.signals.modify other _)[id]? = _
      rw [List.getElem?_modify, isSignal]
      rfl
    · split <;> exact isDecision
    · split
      · rfl
      · exact isSome
  | createSignal symbol ts other =>
    refine ⟨signal, ?_, isDecision, isSome⟩
    exact (List.getElem?_append_left (List.getElem?_eq_some_iff.mp isSignal).1).trans isSignal
  | _ => exact ⟨signal, isSignal, isDecision, isSome⟩

/-- A signal whose update takes effect is resolved by the bar of the update. -/
theorem getElem?_resolve {id : ℕ} {signal : Signal} (isSignal : desk.signals[id]? = some signal)
    (bar : Kline) :
    (desk.resolve id bar).signals[id]? =
      some { signal with resolution := some ⟨bar.outcome, bar.retPct, bar⟩ } := by
  show (desk.signals.modify id _)[id]? = _
  rw [List.getElem?_modify, isSignal]
  exact congrArg some (if_pos rfl)

/-! ### Queries -/

/-- Of a list there is one among the first that satisfies a predicate if few that do not come
before one that does. -/
theorem exists_mem_take_iff {Item : Type} {holds : Item → Prop} [DecidablePred holds]
    {items : List Item} {count : ℕ} (some_ : ∃ item ∈ items, holds item) :
    (∃ item ∈ items.take count, holds item) ↔
      (items.takeWhile fun item => ¬ holds item).length < count := by
  induction items generalizing count with
  | nil =>
    obtain ⟨item, member, -⟩ := some_
    cases member
  | cons first rest inductionHypothesis =>
    cases count with
    | zero => simp
    | succ count =>
      by_cases isFirst : holds first
      · simp [isFirst]
      · have later : ∃ item ∈ rest, holds item := by
          obtain ⟨item, member, isHeld⟩ := some_
          rcases List.mem_cons.mp member with same | inRest
          · exact absurd (same ▸ isHeld) isFirst
          · exact ⟨item, inRest, isHeld⟩
        simp [isFirst, inductionHypothesis later]

theorem unstarved_iff (desk : Desk) (now : ℕ) : desk.Unstarved now ↔ desk.Uncrowded now := by
  exact forall_congr' fun some_ => exists_mem_take_iff some_

/-! ### Runs -/

/-- Nothing has been learned, and there was nothing to learn. -/
structure Desk.Quiet (desk : Desk) : Prop where
  unlearned : desk.priors = desk.base
  silent : ∀ signal ∈ desk.signals, signal.resolution.isSome → signal.decision.Silent
  judged : desk.Judged

theorem quiet_step (orderly : Orderly step) (quiet : step.before.state.Quiet) :
    step.after.state.Quiet := by
  refine after_of_effect quiet fun applies => ?_
  obtain ⟨before, caller, op, fate⟩ := step
  obtain ⟨unlearned, silent, judged⟩ := quiet
  cases op with
  | updateSignal id bar =>
    have fits := orderly applies
    have each : ∀ signal ∈ (before.state.resolve id bar).signals, signal ∈ before.state.signals ∨
        (signal.decision.Silent ∧ signal.decision.Fits bar.actualUp ∧
          signal.resolution = some ⟨bar.outcome, bar.retPct, bar⟩) := by
      intro signal member
      obtain ⟨position, isSignal⟩ := List.mem_iff_getElem?.mp member
      have modified : (before.state.signals.modify id fun signal =>
        { signal with resolution := some ⟨bar.outcome, bar.retPct, bar⟩ })[position]? =
          some signal := isSignal
      rw [List.getElem?_modify] at modified
      obtain ⟨old, isOld, rfl⟩ := Option.map_eq_some_iff.mp modified
      split
      next same =>
        subst same
        obtain ⟨isSilent, isFit⟩ := fits old isOld
        exact Or.inr ⟨isSilent, isFit, rfl⟩
      next => exact Or.inl (List.mem_of_getElem? isOld)
    refine ⟨unlearned, fun signal member isSome => ?_, fun signal member resolution isRes => ?_⟩
    · rcases each signal member with old | ⟨isSilent, -⟩
      · exact silent signal old isSome
      · exact isSilent
    · rcases each signal member with old | ⟨-, isFit, isResolution⟩
      · exact judged signal old resolution isRes
      · rw [isResolution] at isRes
        rw [← Option.some.inj isRes]
        exact (outcome_iff signal.decision bar).mpr isFit
  | upsertPrior key dir actualUp => exact absurd applies orderly
  | createSignal symbol ts decision =>
    refine ⟨unlearned, fun signal member isSome => ?_, fun signal member resolution isRes => ?_⟩
    · rcases List.mem_append.mp member with old | isNew
      · exact silent signal old isSome
      · rw [List.mem_singleton.mp isNew] at isSome
        cases isSome
    · rcases List.mem_append.mp member with old | isNew
      · exact judged signal old resolution isRes
      · rw [List.mem_singleton.mp isNew] at isRes
        cases isRes
  | getPrior key =>
    refine ⟨?_, silent, judged⟩
    show upsert key id before.state.priors = upsert key id before.state.base
    rw [show before.state.priors = before.state.base from unlearned]
  | _ => exact ⟨unlearned, silent, judged⟩

theorem lawful_of_orderly {priors : Priors} {requests : List Request} {turns : List (Turn tables)}
    (orderly : ∀ step ∈ (learningSystem priors requests).steps turns, Orderly step) :
    Lawful (learningSystem priors requests) turns := by
  have start : (learningSystem priors requests).moment.state.Quiet :=
    ⟨rfl, fun _ member => (List.not_mem_nil member).elim,
      fun _ member => (List.not_mem_nil member).elim⟩
  obtain ⟨quiet, each⟩ := @System.run_keeps tables Unit (fun moment => moment.state.Quiet) Orderly
    (fun step => step.after.state.Judged) (fun step quiet isOrderly =>
      ⟨(quiet_step isOrderly quiet).judged, quiet_step isOrderly quiet⟩) _ start turns orderly
  refine ⟨?_, each, fun step member now isQuery => ?_⟩
  · exact quiet.unlearned.trans (foldl_teach_silent quiet.silent _).symm
  · have uncrowded := orderly step member
    unfold Orderly at uncrowded
    rw [isQuery] at uncrowded
    exact (unstarved_iff _ now).mpr uncrowded

theorem orderly_of_lawful {priors : Priors} {requests : List Request} {turns : List (Turn tables)}
    (lawful : Lawful (learningSystem priors requests) turns) :
    ∀ step ∈ (learningSystem priors requests).steps turns, Orderly step := by
  intro step member
  have own := own_of_mem_steps priors requests turns
  have start : (learningSystem priors requests).moment.state.Grown :=
    ⟨fun _ _ => rfl, fun _ _ => le_rfl⟩
  obtain ⟨grown, each⟩ := @System.run_keeps tables Unit (fun moment => moment.state.Grown)
    (fun step => Own step.op) (fun step => step.before.state.Grown) (fun step before isOwn =>
      ⟨before, grown_step isOwn before⟩) _ start turns own
  -- The rows that a signal teaches are those of one minute, which are as they would be.
  have untaught : ∀ key : PriorKey, key.interval ≠ "1h" →
      weight (((learningSystem priors requests).run turns).moment.state.signals.foldl teach
        ((learningSystem priors requests).run turns).moment.state.base key) =
      weight (((learningSystem priors requests).run turns).moment.state.base key) := by
    intro key notHour
    rw [← lawful.taught, grown.minutes key notHour]
  unfold Orderly
  split
  next now isQuery => exact (unstarved_iff _ now).mp (lawful.unstarved step member now isQuery)
  next id bar isUpdate =>
    intro applies signal isSignal
    have resolvedAs : step.after.state.signals[id]? =
        some { signal with resolution := some ⟨bar.outcome, bar.retPct, bar⟩ } := by
      rw [state_after, if_pos applies, isUpdate]
      exact getElem?_resolve isSignal bar
    refine ⟨fun component isComponent => ?_, ?_⟩
    · have resolved : step.after.state.Resolved id signal.decision := ⟨_, resolvedAs, rfl, rfl⟩
      obtain ⟨last, isLast, isDecision, isSome⟩ := @System.run_retains tables Unit
        (fun moment => moment.state.Resolved id signal.decision) (fun step => Own step.op)
        (fun step before _ => resolved_step before) _ _ own _ member resolved
      obtain ⟨resolution, isResolution⟩ := Option.isSome_iff_exists.mp isSome
      by_contra directed
      have heavier := weight_signal_lt (List.mem_of_getElem? isLast) isResolution directed
        (isDecision ▸ isComponent)
        ((learningSystem priors requests).run turns).moment.state.base
      have minute : "1m" ≠ "1h" := by decide
      rw [untaught _ minute] at heavier
      exact lt_irrefl _ heavier
    · exact (outcome_iff signal.decision bar).mp
        (lawful.judged step member _ (List.mem_of_getElem? resolvedAs) _ rfl)
  next key dir actualUp isUpsert =>
    intro applies
    have isOwn := own step member
    rw [isUpsert] at isOwn
    have outgrown := @System.run_retains tables Unit (fun moment => moment.state.Outgrown key)
      (fun step => Own step.op) (fun step before own => outgrown_step own isOwn.2 before) _ _ own
      _ member (outgrown_of_upsert (each step member) isUpsert isOwn.2 applies)
    have isHour : key.interval ≠ "1m" := by
      rw [isOwn.1]
      decide
    have same : ((learningSystem priors requests).run turns).moment.state.priors key =
        ((learningSystem priors requests).run turns).moment.state.base key := by
      rw [lawful.taught, foldl_teach_elsewhere isHour]
    exact outgrown.ne (congrArg weight same.symm)
  next => trivial

/-- The priors learn as they should in exactly the runs in which nothing is learned. -/
theorem lawful_iff (priors : Priors) (requests : List Request) (turns : List (Turn tables)) :
    Lawful (learningSystem priors requests) turns ↔
      ∀ step ∈ (learningSystem priors requests).steps turns, Orderly step :=
  ⟨orderly_of_lawful, lawful_of_orderly⟩

private theorem bought_components :
    ([("ema", Direction.up)] : List (String × Direction)).map Prod.fst |>.Nodup := by
  decide

/-- A decision to buy for which the average said UP. -/
def bought : Decision where
  reading := ⟨6 / 10, 6 / 10, none, .trending⟩
  adxValue := 30
  bayesDirection := .up
  rlAction := .buy
  rawAction := .buy
  blocked := none
  components := ⟨[("ema", .up)], bought_components⟩

/-- A decision is logged, a bar that rises is stored, and the updater runs undisturbed. -/
theorem not_lawful : ¬ ∀ (priors : Priors) (requests : List Request) (turns : List (Turn tables)),
    Lawful (learningSystem priors requests) turns := by
  intro always
  have lawful := always (fun _ => none)
    [.decide "BTCUSDT" 0 bought, .store ⟨"BTCUSDT", "1h", HOUR, 100, 101⟩, .update (2 * HOUR)]
    (⟨0, fun _ => .answered⟩ :: ⟨1, fun _ => .answered⟩ ::
      List.replicate 13 ⟨2, fun _ => .answered⟩)
  have created := congrFun lawful.taught ⟨"threshold", "BTCUSDT", "1h"⟩
  exact absurd created (by decide +kernel)

end GdslExchange.Signals.PriorUpdater
