/-
This file settles when the autopilot keeps its interval and its cap on positions: in
every run in which a pass submits a BUY only as long as what it has read is still true,
the time of the last BUY and the number of positions.

Nothing keeps it true. The time is written after the swap and only if the swap succeeds,
the positions are counted before it, and the watcher fires whether or not the last pass
has ended.
-/

import GdslExchange.Async.Protocol
import GdslExchange.JupiterAutopilot.Service

namespace GdslExchange.JupiterAutopilot

open Async Async.Program
open Jupiter (SwapRequest)
open Protocol (Anywhere Follows Stays anywhere ends permitted phases_after)

/-! ### Phases -/

/-- What a pass knows of the user it is at. -/
inductive Phase where
  | idle
  | read (userId : String) (reading : Reading)
  | counted (userId : String) (reading : Reading) (openCount : ℕ)

def Phase.reading : Phase → Option Reading
  | idle => none
  | read _ reading => some reading
  | counted _ reading _ => some reading

/-- The positions of the user are counted. -/
def Phase.count (openCount : ℕ) : Phase → Phase
  | read userId reading => counted userId reading openCount
  | phase => phase

/-- The interval has elapsed since the last BUY that was read. -/
def Reading.Due (reading : Reading) : Prop :=
  reading.lastBuy + reading.settings.intervalMs ≤ reading.now

def lane : Protocol venue Phase where
  start := .idle
  permits phase
    | .submitSwap userId _ => ∃ reading openCount,
        phase = .counted userId reading openCount ∧ reading.Due ∧
          openCount < reading.settings.maxOpenPositions
    | _ => True
  next phase
    | .readUser userId, .ok reading => .read userId reading
    | .countOpenPositions _, .ok openCount => phase.count openCount
    | _, _ => phase

/-- Operations that teach a pass nothing of what the autopilot has to keep. -/
def Plain : Op → Prop
  | .readUser _ => False
  | .countOpenPositions _ => False
  | .submitSwap _ _ => False
  | _ => True

theorem stays_plain {op : Op} {phase : Phase} (plain : Plain op) :
    lane.Stays phase (await op) := by
  refine Stays.perform ?_
  cases op <;> first | exact plain.elim | exact ⟨trivial, fun _ => rfl⟩

theorem pickSymbol_stays (userId : String) (settings : Settings) (phase : Phase) :
    lane.Stays phase (pickSymbol userId settings) := by
  unfold pickSymbol
  split
  · exact rfl
  · refine Stays.bind (stays_plain trivial) fun items => ?_
    exact Stays.bind (stays_plain trivial) fun openBases => rfl

section Buy

variable {userId : String} {reading : Reading} {openCount : ℕ} (isDue : reading.Due)
  (under : openCount < reading.settings.maxOpenPositions)

include isDue under

theorem executeBuy_stays (request : SwapRequest) :
    lane.Stays (.counted userId reading openCount) (executeBuy userId request) := by
  refine Stays.bind (stays_plain trivial) fun _ => ?_
  have submitted : lane.Stays (.counted userId reading openCount)
      (await (.submitSwap userId request)) :=
    Stays.perform ⟨⟨reading, openCount, rfl, isDue, under⟩, fun _ => rfl⟩
  refine Stays.bind submitted fun _ => ?_
  refine Stays.bind (stays_plain trivial) fun _ => ?_
  exact stays_plain trivial

theorem buySymbol_stays (settings : Settings) (symbol : String) :
    lane.Stays (.counted userId reading openCount) (buySymbol userId settings symbol) := by
  refine Stays.bind (stays_plain trivial) fun preview => ?_
  split
  · exact stays_plain trivial
  · exact executeBuy_stays isDue under _

end Buy

theorem Stays.anywhere {Value : Type} {phase : Phase} {program : Call Value}
    (stays : lane.Stays phase program) :
    lane.Follows phase program anywhere := by
  refine stays.mono fun result reached _ => ?_
  cases result <;> trivial

theorem anywhere_plain {op : Op} (plain : Plain op) : lane.Anywhere (await op) :=
  fun _ => Stays.anywhere (stays_plain plain)

theorem tryAutopilotBuy_anywhere (userId : String) : lane.Anywhere (tryAutopilotBuy userId) := by
  intro phase
  refine Follows.moves (.read userId) trivial (fun _ => rfl) (fun _ => trivial) fun reading => ?_
  by_cases enabled : !reading.settings.enabled
  · rw [if_pos enabled]
    trivial
  rw [if_neg enabled]
  by_cases early : reading.now < reading.lastBuy + reading.settings.intervalMs
  · rw [if_pos early]
    trivial
  rw [if_neg early]
  refine Follows.moves (.counted userId reading) trivial (fun _ => rfl) (fun _ => trivial)
    fun openCount => ?_
  by_cases full : (openCount : ℚ) ≥ reading.settings.maxOpenPositions
  · rw [if_pos full]
    trivial
  rw [if_neg full]
  refine Stays.anywhere ?_
  refine Stays.bind (pickSymbol_stays userId reading.settings _) fun symbol? => ?_
  cases symbol? with
  | none => exact rfl
  | some symbol => exact buySymbol_stays (not_lt.mp early) (not_le.mp full) _ symbol

theorem runJupiterAutopilotWatcher_anywhere (env : Environment) :
    lane.Anywhere (runJupiterAutopilotWatcher env) := by
  unfold runJupiterAutopilotWatcher
  split
  · exact fun _ => trivial
  · refine Anywhere.bind (anywhere_plain trivial)
      fun limited => ?_
    split
    · exact fun _ => trivial
    · refine Anywhere.bind (anywhere_plain trivial)
        fun users => Anywhere.forEach fun userId => ?_
      exact (tryAutopilotBuy_anywhere userId).recover fun _ _ => trivial

/-- Every request goes through the phases. -/
theorem request_anywhere (env : Environment) (request : Request) :
    lane.Anywhere (request.call env) := by
  cases request with
  | set userId raw =>
    exact Anywhere.bind (anywhere_plain trivial)
      fun _ _ => trivial
  | pass => exact runJupiterAutopilotWatcher_anywhere env
  | elapse ms => exact anywhere_plain trivial
  | trade userId pairs => exact anywhere_plain trivial

theorem permits_of_mem_steps (env : Environment) (now : ℕ) (requests : List Request)
    (turns : List (Turn venue)) :
    ∀ step ∈ (autopilotSystem env now requests).steps turns,
      lane.permits (lane.phase step.before step.caller) step.op :=
  permitted (System.each_call fun _ request => request_anywhere env request _) turns

/-! ### What a run should keep -/

/-- A BUY under these settings keeps its interval to every earlier one and finds room. -/
structure MayBuy (desk : Desk) (userId : String) (settings : Settings) : Prop where
  spaced : ∀ time ∈ desk.submissions userId, time + settings.intervalMs ≤ desk.now
  capped : desk.positions userId < settings.maxOpenPositions

/-- The same, under the settings that a pass works with. -/
def Phase.MayBuy (desk : Desk) (userId : String) : Phase → Prop
  | .counted _ reading _ => JupiterAutopilot.MayBuy desk userId reading.settings
  | _ => False

/-- A step submits a BUY only if it may. -/
def BuySound (step : Step venue) : Prop :=
  match step.op with
  | .submitSwap userId _ =>
    (lane.phase step.before step.caller).MayBuy step.before.state userId
  | _ => True

/-- What a pass has read of a user still stands: no BUY of his was submitted after the last one
that was read, and he has no more positions than were counted. -/
def Phase.Stands (desk : Desk) (userId : String) : Phase → Prop
  | .counted _ reading openCount =>
    (∀ time ∈ desk.submissions userId, time ≤ reading.lastBuy) ∧
      desk.positions userId ≤ openCount
  | _ => True

/-- A BUY is submitted while what its pass has read still stands. -/
def Orderly (step : Step venue) : Prop :=
  match step.op with
  | .submitSwap userId _ =>
    (lane.phase step.before step.caller).Stands step.before.state userId
  | _ => True

/-! ### The clock -/

/-- No pass has read a time that is yet to come. -/
def Past (moment : Moment venue) : Prop :=
  ∀ caller reading, (lane.phase moment caller).reading = some reading →
    reading.now ≤ moment.state.now

theorem now_le_perform (op : Op) (fate : Fate op) (desk : Desk) :
    desk.now ≤ (perform op fate desk).1.now := by
  cases op with
  | elapse ms => exact Nat.le_add_right _ _
  | logSkip userId =>
    show desk.now ≤ (desk.logSkip userId).now
    unfold Desk.logSkip
    split <;> exact le_rfl
  | finishSwap userId request =>
    cases fate with
    | booked pair txSignature =>
      show desk.now ≤ ((desk.settle userId request.binanceSymbol).book userId pair).now
      unfold Desk.book
      split <;> exact le_rfl
    | _ => exact le_rfl
  | _ => exact le_rfl

theorem reading_count (openCount : ℕ) (phase : Phase) :
    (phase.count openCount).reading = phase.reading := by
  cases phase <;> rfl

theorem reading_next (step : Step venue) {reading : Reading}
    (isReading : (lane.next (lane.phase step.before step.caller) step.op step.reply).reading =
      some reading) :
    (lane.phase step.before step.caller).reading = some reading ∨
      reading.now = step.before.state.now := by
  obtain ⟨before, caller, op, fate⟩ := step
  cases op with
  | readUser userId =>
    refine Or.inr ?_
    rw [← Option.some.inj isReading]
    rfl
  | countOpenPositions userId =>
    refine Or.inl ?_
    rw [← isReading]
    cases fate with
    | none => exact (reading_count _ _).symm
    | some message => rfl
  | _ => exact Or.inl isReading

theorem past_step (step : Step venue) (past : Past step.before) : Past step.after := by
  intro caller reading isReading
  have later := now_le_perform step.op step.fate step.before.state
  refine le_trans ?_ later
  rw [phases_after] at isReading
  by_cases same : caller = step.caller
  · rw [same, Function.update_self] at isReading
    rcases reading_next step isReading with before | now
    · exact past step.caller reading before
    · exact now.le
  · rw [Function.update_of_ne same] at isReading
    exact past caller reading isReading

/-! ### Orderly runs -/

theorem mayBuy_of_stands {desk : Desk} {userId : String} {reading : Reading} {openCount : ℕ}
    (isDue : reading.Due) (under : openCount < reading.settings.maxOpenPositions)
    (isPast : reading.now ≤ desk.now)
    (stands : (Phase.counted userId reading openCount).Stands desk userId) :
    MayBuy desk userId reading.settings := by
  obtain ⟨recorded, roomy⟩ := stands
  refine ⟨fun time member => ?_, ?_⟩
  · calc time + reading.settings.intervalMs
        ≤ reading.lastBuy + reading.settings.intervalMs :=
          Nat.add_le_add_right (recorded time member) _
      _ ≤ reading.now := isDue
      _ ≤ desk.now := isPast
  · exact lt_of_le_of_lt (Nat.cast_le.mpr roomy) under

theorem buySound_step (step : Step venue)
    (permitted : lane.permits (lane.phase step.before step.caller) step.op)
    (orderly : Orderly step) (past : Past step.before) : BuySound step := by
  obtain ⟨before, caller, op, fate⟩ := step
  cases op with
  | submitSwap userId request =>
    obtain ⟨reading, openCount, isCounted, isDue, under⟩ := permitted
    have stands : (lane.phase before caller).Stands before.state userId := orderly
    have isPast : reading.now ≤ before.state.now := past caller reading (by rw [isCounted]; rfl)
    show (lane.phase before caller).MayBuy before.state userId
    rw [isCounted] at stands ⊢
    exact mayBuy_of_stands isDue under isPast stands
  | _ => trivial

/-- In an orderly run every BUY keeps the interval and the cap, whatever is interleaved. -/
theorem buySound_of_orderly (env : Environment) (now : ℕ) (requests : List Request)
    (turns : List (Turn venue))
    (orderly : ∀ step ∈ (autopilotSystem env now requests).steps turns, Orderly step) :
    ∀ step ∈ (autopilotSystem env now requests).steps turns, BuySound step := by
  have allowed : ∀ step ∈ (autopilotSystem env now requests).steps turns,
      lane.permits (lane.phase step.before step.caller) step.op ∧ Orderly step :=
    fun step member =>
      ⟨permits_of_mem_steps env now requests turns step member, orderly step member⟩
  have start : Past (autopilotSystem env now requests).moment := nofun
  exact (Async.System.run_keeps (fun step past both =>
    ⟨buySound_step step both.1 both.2 past, past_step step past⟩) start turns allowed).2

/-! ### Runs -/

instance (desk : Desk) (userId : String) (phase : Phase) :
    Decidable (phase.Stands desk userId) :=
  match phase with
  | .counted _ _ _ => inferInstanceAs (Decidable (_ ∧ _))
  | .idle => inferInstanceAs (Decidable True)
  | .read _ _ => inferInstanceAs (Decidable True)

instance (step : Step venue) : Decidable (Orderly step) := by
  unfold Orderly
  split <;> infer_instance

instance (desk : Desk) (userId : String) (settings : Settings) :
    Decidable (MayBuy desk userId settings) :=
  decidable_of_iff (_ ∧ _) ⟨fun both => ⟨both.1, both.2⟩, fun may => ⟨may.spaced, may.capped⟩⟩

instance (desk : Desk) (userId : String) (phase : Phase) :
    Decidable (phase.MayBuy desk userId) :=
  match phase with
  | .counted _ reading _ => inferInstanceAs (Decidable (MayBuy desk userId reading.settings))
  | .idle => inferInstanceAs (Decidable False)
  | .read _ _ => inferInstanceAs (Decidable False)

instance (step : Step venue) : Decidable (BuySound step) := by
  unfold BuySound
  split <;> infer_instance

/-- Everything answers: Solana is tradable, and BUYs are booked. -/
def fine : (op : Op) → Fate op
  | .isJupiterSwapRateLimited => false
  | .countOpenPositions _ => none
  | .getJupiterTradeSuggestions _ => .ok [⟨"SOL", "SOLUSDT", 1000000, .strong⟩]
  | .openBaseSymbols _ => none
  | .previewJupiterSwap _ _ => .ok ⟨true, false, some "good"⟩
  | .prepareSwap _ _ => .ok ()
  | .finishSwap _ _ => SwapFate.booked "SOL/USDT" "signature"
  | .setJupiterAutopilotSettings _ _ => ()
  | .enabledUsers => ()
  | .readUser _ => ()
  | .logSkip _ => ()
  | .submitSwap _ _ => ()
  | .setLastBuyAt _ => ()
  | .elapse _ => ()
  | .tradeElsewhere _ _ => ()

def turnsOf (caller count : ℕ) : List (Turn venue) := List.replicate count ⟨caller, fine⟩

def watching : Environment := ⟨true, true, true⟩

def enable : Request := .set "user" { enabled := some true }

/-- A BUY, and a pass that is too early. -/
theorem buySound_of_orderly_pass :
    ((autopilotSystem watching 3000000 [enable, .pass, .pass]).steps
      (turnsOf 0 1 ++ turnsOf 1 11 ++ turnsOf 2 4)).Forall BuySound :=
  List.forall_iff_forall_mem.mpr (buySound_of_orderly watching 3000000 [enable, .pass, .pass]
    (turnsOf 0 1 ++ turnsOf 1 11 ++ turnsOf 2 4) (by decide +kernel))

/-- Two passes overlap: each has found no BUY and no position, and each buys. -/
theorem not_buySound : ¬ ∀ (env : Environment) (now : ℕ) (requests : List Request)
    (turns : List (Turn venue)),
    ∀ step ∈ (autopilotSystem env now requests).steps turns, BuySound step := by
  intro always
  have sound := always watching 3000000 [enable, .pass, .pass]
    (turnsOf 0 1 ++ turnsOf 1 8 ++ turnsOf 2 9 ++ turnsOf 1 1)
  exact absurd sound (by decide +kernel)

end GdslExchange.JupiterAutopilot
