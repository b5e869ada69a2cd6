/-
This file models the exit settings of the DEX and settles when a change of one of them changes
only that one, and exits are evaluated with what is persisted.

The settings are in memory. The first look at a user starts a query for his row, whose answer
lands later, and until then he has the defaults; a change merges into what is in memory and
starts an update of the whole row. Nobody waits for a query or an update.
-/

import GdslExchange.Async.Delivery
import GdslExchange.ExitConfig.Settings

namespace GdslExchange.ExitConfig.Jupiter

open Async (Delivery)

def DEFAULTS (dexAutoStopLossPct : ℚ) : ExitSettings where
  enabled := true
  takeProfitPct := 1
  stopLossPct := dexAutoStopLossPct
  trailingStop := false
  profitSkim := true
  trailingActivationPct := 8 / 10
  trailingDeltaPct := 4 / 10

def exitService (dexAutoStopLossPct : ℚ) : Service := ⟨1 / 10, DEFAULTS dexAutoStopLossPct⟩

/-! ### The machine -/

/-- A change, and the row that its update writes. -/
structure Update where
  raw : PartialExitSettings
  next : ExitSettings

/-- What there is of a user: his row, his entries of `settingsByUser` and `hydrated`, the queries
for his row that the database has not seen, their answers that have not landed, and the updates
under way in the order of their calls. -/
structure Slot where
  row : Option ExitSettings
  settings : Option ExitSettings
  hydrated : Bool
  queries : ℕ
  answers : List (Except String (Option ExitSettings))
  updates : List Update

inductive Event where
  /-- `getJupiterExitSettings` of a caller that evaluates no exit. -/
  | look
  /-- `getJupiterExitSettings` of a watcher. -/
  | watch
  /-- `setJupiterExitSettings`. -/
  | set (raw : PartialExitSettings)
  /-- The database answers a query, or fails. -/
  | answer (failure : Option String)
  /-- An answer lands. -/
  | land (position : ℕ)
  /-- An update ends. -/
  | update (position : ℕ) (delivery : Delivery)

namespace Slot

variable (service : Service) (slot : Slot)

def hydrateFromDb : Slot :=
  if slot.hydrated then slot else { slot with hydrated := true, queries := slot.queries + 1 }

def prefs : ExitSettings := slot.settings.getD service.defaults

def set (raw : PartialExitSettings) : Slot :=
  let next := service.merge raw (slot.prefs service)
  { slot.hydrateFromDb with
    settings := some next
    hydrated := true
    updates := slot.updates ++ [⟨raw, next⟩] }

/-- The database looks for the row. -/
def answer (failure : Option String) : Slot :=
  match slot.queries with
  | 0 => slot
  | queries + 1 =>
    { slot with
      queries := queries
      answers := slot.answers ++ [match failure with
        | none => .ok slot.row
        | some message => .error message] }

/-- The end of `hydrateFromDb`. -/
def land (position : ℕ) : Slot :=
  match slot.answers[position]? with
  | none => slot
  | some (.ok none) => { slot with answers := slot.answers.eraseIdx position }
  | some (.ok (some row)) =>
    { slot with answers := slot.answers.eraseIdx position, settings := some (service.ofRow row) }
  | some (.error _) => { slot with answers := slot.answers.eraseIdx position, hydrated := false }

/-- The row after an update. -/
def update (position : ℕ) (delivery : Delivery) : Slot :=
  match slot.updates[position]? with
  | none => slot
  | some ended =>
    { slot with
      row := if delivery.Applies then some ended.next else slot.row
      updates := slot.updates.eraseIdx position }

def step : Event → Slot
  | .look => slot.hydrateFromDb
  | .watch => slot.hydrateFromDb
  | .set raw => slot.set service raw
  | .answer failure => slot.answer failure
  | .land position => slot.land service position
  | .update position delivery => slot.update position delivery

/-- The slot of a user when the process starts. -/
def fresh (row : Option ExitSettings) : Slot := ⟨row, none, false, 0, [], []⟩

end Slot

abbrev Desk := String → Slot

def Desk.step (service : Service) (desk : Desk) (event : String × Event) : Desk :=
  Function.update desk event.1 ((desk event.1).step service event.2)

/-! ### What a run should keep -/

/-- Exits are evaluated with the persisted settings of a user who has some, and an update leaves
them as they were but for the fields that are given. -/
def Slot.Sound (service : Service) (slot : Slot) : Event → Prop
  | .watch => ∀ row ∈ slot.row, slot.prefs service = service.ofRow row
  | .update position delivery => ∀ ended ∈ slot.updates[position]?, ∀ row ∈ slot.row,
    ∀ after ∈ (slot.update position delivery).row,
      service.ofRow after = service.withGiven ended.raw (service.ofRow row)
  | _ => True

/-- The row was looked for in this process, the last query for it did not fail, and no answer is
on its way. -/
def Slot.Loaded (slot : Slot) : Prop := slot.hydrated ∧ slot.queries = 0 ∧ slot.answers = []

/-- A watcher comes when the row is loaded and no update is under way, a change when the row is
loaded or there is none; updates take effect in the order of their calls, and none is refused. -/
def Slot.Orderly (slot : Slot) : Event → Prop
  | .watch => slot.row = none ∨ (slot.Loaded ∧ slot.updates = [])
  | .set _ => slot.Loaded ∨ (slot.row = none ∧ slot.updates = [])
  | .update position delivery => position = 0 ∧ delivery.Applies
  | _ => True

instance (slot : Slot) : Decidable slot.Loaded := inferInstanceAs (Decidable (_ ∧ _ ∧ _))

instance (slot : Slot) (event : Event) : Decidable (slot.Orderly event) := by
  cases event <;> unfold Slot.Orderly <;> infer_instance

/-- Every event of a run satisfies a predicate with the slot it meets. -/
def Throughout (service : Service) (holds : Slot → Event → Prop) :
    Desk → List (String × Event) → Prop
  | _, [] => True
  | desk, event :: later =>
    holds (desk event.1) event.2 ∧ Throughout service holds (desk.step service event) later

instance Throughout.decidable (service : Service) (holds : Slot → Event → Prop)
    [∀ slot event, Decidable (holds slot event)] : (desk : Desk) →
      (events : List (String × Event)) → Decidable (Throughout service holds desk events)
  | _, [] => .isTrue trivial
  | desk, event :: later =>
    have := Throughout.decidable service holds (desk.step service event) later
    inferInstanceAs (Decidable (_ ∧ _))

/-! ### The invariant -/

def latest (service : Service) (row : Option ExitSettings) (updates : List Update) :
    Option ExitSettings :=
  (updates.getLast?.map Update.next).or (row.map service.ofRow)

/-- Each update writes what its change makes of what is there before it. -/
def Chained (service : Service) : Option ExitSettings → List Update → Prop
  | _, [] => True
  | row, first :: later =>
    service.ofRow first.next = first.next ∧
      (∀ settings ∈ row.map service.ofRow, first.next = service.withGiven first.raw settings) ∧
        Chained service (some first.next) later

/-- The settings in memory are the latest of a user who has some. -/
def Slot.UpToDate (service : Service) (slot : Slot) : Prop :=
  ∀ settings ∈ latest service slot.row slot.updates, slot.prefs service = settings

structure Slot.InStep (service : Service) (slot : Slot) : Prop where
  chained : Chained service slot.row slot.updates
  loaded : slot.Loaded → slot.UpToDate service
  absent : slot.row = none → slot.UpToDate service
  unloaded : ¬ slot.Loaded → slot.updates = [] ∨
    (slot.row = none ∧ slot.updates.length = 1)
  found : ∀ row, .ok (some row) ∈ slot.answers → slot.row = some row ∧ slot.updates = []
  missing : .ok none ∈ slot.answers → slot.UpToDate service

section Chains

variable {service : Service}

theorem latest_cons (row : Option ExitSettings) (first : Update) (later : List Update)
    (bounded : service.ofRow first.next = first.next) :
    latest service row (first :: later) = latest service (some first.next) later := by
  unfold latest
  cases later with
  | nil => simp [bounded]
  | cons second rest =>
    obtain ⟨last, isLast⟩ : ∃ last, (second :: rest).getLast? = some last :=
      ⟨_, List.getLast?_eq_some_getLast (List.cons_ne_nil _ _)⟩
    rw [List.getLast?_cons_cons, isLast]
    rfl

theorem chained_append {row : Option ExitSettings} {updates : List Update}
    (chained : Chained service row updates) {raw : PartialExitSettings} {prefs : ExitSettings}
    (upToDate : ∀ settings ∈ latest service row updates, prefs = settings) :
    Chained service row (updates ++ [⟨raw, service.merge raw prefs⟩]) := by
  induction updates generalizing row with
  | nil =>
    refine ⟨service.ofRow_merge raw prefs, fun settings isSettings => ?_, trivial⟩
    obtain ⟨stored, -, rfl⟩ := Option.mem_map.mp isSettings
    have isPrefs : prefs = service.ofRow stored := upToDate _ isSettings
    rw [isPrefs]
    exact service.merge_ofRow raw stored
  | cons first later inductionHypothesis =>
    obtain ⟨bounded, merged, rest⟩ := chained
    rw [latest_cons row first later bounded] at upToDate
    exact ⟨bounded, merged, inductionHypothesis rest upToDate⟩

theorem latest_append (row : Option ExitSettings) (updates : List Update) (last : Update) :
    latest service row (updates ++ [last]) = some last.next := by
  unfold latest
  rw [List.getLast?_concat]
  rfl

end Chains

section Steps

variable {service : Service} {slot : Slot}

theorem inStep_fresh (row : Option ExitSettings) : (Slot.fresh row).InStep service where
  chained := trivial
  loaded := fun loaded => absurd loaded.1 Bool.false_ne_true
  absent := fun absent settings isLatest => by
    have none : row = none := absent
    rw [none] at isLatest
    cases isLatest
  unloaded := fun _ => Or.inl rfl
  found := fun _ member => by cases member
  missing := fun member => by cases member

section

variable (inStep : slot.InStep service)
include inStep

theorem inStep_hydrateFromDb :
    slot.hydrateFromDb.InStep service := by
  unfold Slot.hydrateFromDb
  split
  · exact inStep
  next cold =>
    have unloaded : ¬ slot.Loaded := fun loaded => cold loaded.1
    exact {
      chained := inStep.chained
      loaded := fun loaded => absurd loaded.2.1 (Nat.succ_ne_zero _)
      absent := inStep.absent
      unloaded := fun _ => inStep.unloaded unloaded
      found := inStep.found
      missing := inStep.missing }

theorem inStep_answer (failure : Option String) :
    (slot.answer failure).InStep service := by
  unfold Slot.answer
  split
  · exact inStep
  next queries isQueries =>
    have unloaded : ¬ slot.Loaded := fun loaded => by
      have none := loaded.2.1
      rw [isQueries] at none
      exact Nat.succ_ne_zero _ none
    refine ⟨inStep.chained, fun loaded => ?_, inStep.absent, fun _ => inStep.unloaded unloaded,
      fun row member => ?_, fun member => ?_⟩
    · exact absurd loaded.2.2 (List.append_ne_nil_of_right_ne_nil _ (List.cons_ne_nil _ _))
    · rcases List.mem_append.mp member with earlier | isNew
      · exact inStep.found row earlier
      · cases failure with
        | some message => cases List.mem_singleton.mp isNew
        | none =>
          have isRow : slot.row = some row := (Except.ok.inj (List.mem_singleton.mp isNew)).symm
          refine ⟨isRow, (inStep.unloaded unloaded).resolve_right fun absent => ?_⟩
          rw [isRow] at absent
          cases absent.1
    · rcases List.mem_append.mp member with earlier | isNew
      · exact inStep.missing earlier
      · cases failure with
        | some message => cases List.mem_singleton.mp isNew
        | none => exact inStep.absent (Except.ok.inj (List.mem_singleton.mp isNew)).symm

theorem inStep_land (position : ℕ) :
    (slot.land service position).InStep service := by
  unfold Slot.land
  split
  · exact inStep
  next isAnswer =>
    have member := List.mem_of_getElem? isAnswer
    have unloaded : ¬ slot.Loaded := fun loaded => by
      rw [loaded.2.2] at member
      cases member
    exact {
      chained := inStep.chained
      loaded := fun _ => inStep.missing member
      absent := inStep.absent
      unloaded := fun _ => inStep.unloaded unloaded
      found := fun row later => inStep.found row (List.mem_of_mem_eraseIdx later)
      missing := fun _ => inStep.missing member }
  next row isAnswer =>
    have member := List.mem_of_getElem? isAnswer
    obtain ⟨isRow, idle⟩ := inStep.found row member
    have upToDate : ∀ settings ∈ latest service slot.row slot.updates,
        service.ofRow row = settings := by
      intro settings isLatest
      rw [isRow, idle] at isLatest
      exact Option.some.inj isLatest
    exact {
      chained := inStep.chained
      loaded := fun _ => upToDate
      absent := fun _ => upToDate
      unloaded := fun _ => Or.inl idle
      found := fun row later => inStep.found row (List.mem_of_mem_eraseIdx later)
      missing := fun _ => upToDate }
  next message isAnswer =>
    have member := List.mem_of_getElem? isAnswer
    have unloaded : ¬ slot.Loaded := fun loaded => by
      rw [loaded.2.2] at member
      cases member
    exact {
      chained := inStep.chained
      loaded := fun loaded => absurd loaded.1 Bool.false_ne_true
      absent := inStep.absent
      unloaded := fun _ => inStep.unloaded unloaded
      found := fun row later => inStep.found row (List.mem_of_mem_eraseIdx later)
      missing := fun later => inStep.missing (List.mem_of_mem_eraseIdx later) }

theorem inStep_set {raw : PartialExitSettings} (orderly : slot.Orderly (.set raw)) :
    (slot.set service raw).InStep service := by
  have upToDate : slot.UpToDate service :=
    orderly.elim inStep.loaded fun none => inStep.absent none.1
  have merged : (slot.set service raw).UpToDate service := by
    intro settings isLatest
    exact Option.some.inj ((latest_append _ _ _).symm.trans isLatest)
  have sameRow : (slot.set service raw).row = slot.row := by
    unfold Slot.set Slot.hydrateFromDb
    split <;> rfl
  have sameAnswers : (slot.set service raw).answers = slot.answers := by
    unfold Slot.set Slot.hydrateFromDb
    split <;> rfl
  refine ⟨?_, fun _ => merged, fun _ => merged, fun unloaded => ?_, fun row member => ?_,
    fun _ => merged⟩
  · rw [sameRow]
    exact chained_append inStep.chained upToDate
  · rcases orderly with ⟨isHydrated, noQuery, noAnswer⟩ | ⟨noRow, idle⟩
    · refine absurd ⟨rfl, ?_, sameAnswers.trans noAnswer⟩ unloaded
      unfold Slot.set Slot.hydrateFromDb
      rw [if_pos isHydrated]
      exact noQuery
    · refine Or.inr ⟨sameRow.trans noRow, ?_⟩
      show (slot.updates ++ [_]).length = 1
      rw [idle]
      rfl
  · rw [sameAnswers] at member
    rcases orderly with loaded | ⟨noRow, -⟩
    · rw [loaded.2.2] at member
      cases member
    · have isRow := (inStep.found row member).1
      rw [noRow] at isRow
      cases isRow

theorem inStep_update {position : ℕ} {delivery : Delivery}
    (orderly : slot.Orderly (.update position delivery)) :
    (slot.update position delivery).InStep service := by
  obtain ⟨rfl, applies⟩ := orderly
  unfold Slot.update
  cases isUpdates : slot.updates with
  | nil => exact inStep
  | cons first later =>
    have chained := inStep.chained
    rw [isUpdates] at chained
    obtain ⟨bounded, -, rest⟩ := chained
    have sameLatest : latest service slot.row slot.updates =
        latest service (some first.next) later := by
      rw [isUpdates, latest_cons _ _ _ bounded]
    simp only [List.getElem?_cons_zero, List.eraseIdx_cons_zero, if_pos applies]
    refine ⟨rest, fun loaded settings isLatest => ?_, nofun, fun unloaded => ?_,
      fun row member => ?_, fun member settings isLatest => ?_⟩
    · exact inStep.loaded loaded settings (sameLatest ▸ isLatest)
    · rcases inStep.unloaded unloaded with idle | ⟨-, single⟩
      · rw [isUpdates] at idle
        cases idle
      · rw [isUpdates] at single
        exact Or.inl (List.length_eq_zero_iff.mp (Nat.succ.inj single))
    · obtain ⟨-, idle⟩ := inStep.found row member
      rw [isUpdates] at idle
      cases idle
    · exact inStep.missing member settings (sameLatest ▸ isLatest)

theorem inStep_step {event : Event} (orderly : slot.Orderly event) :
    (slot.step service event).InStep service := by
  cases event with
  | look => exact inStep_hydrateFromDb inStep
  | watch => exact inStep_hydrateFromDb inStep
  | set raw => exact inStep_set inStep orderly
  | answer failure => exact inStep_answer inStep failure
  | land position => exact inStep_land inStep position
  | update position delivery => exact inStep_update inStep orderly

theorem sound_of_inStep {event : Event} (orderly : slot.Orderly event) :
    slot.Sound service event := by
  cases event with
  | watch =>
    intro row isRow
    rcases orderly with absent | ⟨loaded, idle⟩
    · rw [absent] at isRow
      cases isRow
    · refine inStep.loaded loaded _ ?_
      have present : slot.row = some row := isRow
      rw [idle, present]
      rfl
  | update position delivery =>
    obtain ⟨rfl, applies⟩ := orderly
    intro ended isEnded row isRow after isAfter
    have chained := inStep.chained
    have isFirst : slot.updates[0]? = some ended := isEnded
    unfold Slot.update at isAfter
    rw [isFirst] at isAfter
    simp only [if_pos applies] at isAfter
    cases isUpdates : slot.updates with
    | nil =>
      rw [isUpdates] at isFirst
      cases isFirst
    | cons first later =>
      rw [isUpdates] at isFirst chained
      cases isFirst
      cases isAfter
      rw [chained.1]
      exact chained.2.1 _ (Option.mem_map_of_mem _ isRow)
  | _ => trivial

end

end Steps

theorem throughout_sound {service : Service} {desk : Desk}
    (inStep : ∀ userId, (desk userId).InStep service) {events : List (String × Event)}
    (orderly : Throughout service Slot.Orderly desk events) :
    Throughout service (Slot.Sound service) desk events := by
  induction events generalizing desk with
  | nil => trivial
  | cons event later inductionHypothesis =>
    obtain ⟨first, rest⟩ := orderly
    refine ⟨sound_of_inStep (inStep event.1) first, inductionHypothesis (fun userId => ?_) rest⟩
    by_cases same : userId = event.1
    · rw [same, Desk.step, Function.update_self]
      exact inStep_step (inStep event.1) first
    · rw [Desk.step, Function.update_of_ne same]
      exact inStep userId

end GdslExchange.ExitConfig.Jupiter
