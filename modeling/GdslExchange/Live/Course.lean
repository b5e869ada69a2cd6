/-
This file proves that every call of the live bot goes through the phases: whatever a
call has had filled it enters or drops, and it settles with nothing left to enter and
nothing left to restore.
-/

import GdslExchange.Live.Phases

namespace GdslExchange.Live

open Async Async.Program
open Protocol (Follows Stays anywhere ends)

/-! ### What an entry may await -/

/-- Operations that sell nothing and credit nothing. -/
def Buying : Op → Prop
  | .placeOrder _ order => order.side = .buy
  | .updatePortfolio _ => False
  | _ => True

theorem openLong_buys (bot : ℕ) (price : ℚ) : (openLong bot price).Only Buying := by
  have logged (kind : LogKind) (message : String) : (log kind message).Only Buying :=
    only_perform trivial
  have tried (quantity : ℚ) : (tryOrder bot ⟨.buy, quantity⟩).Only Buying := by
    refine only_recover (only_then rfl fun _ => trivial) fun _ => ?_
    exact only_bind (logged _ _) fun _ => trivial
  have booked (settings : BotSettings) (quoteQty qty : ℚ) :
      (bookLong bot settings price quoteQty qty).Only Buying := by
    refine only_bind (logged _ _) fun _ => ?_
    refine only_then trivial fun _ => ?_
    refine only_then trivial fun _ => ?_
    exact only_then trivial fun _ => logged _ _
  refine only_then trivial fun reading => ?_
  dsimp only
  split
  · exact logged _ _
  · refine only_bind (logged _ _) fun _ => ?_
    refine only_bind (tried _) fun filled => ?_
    cases filled with
    | none => trivial
    | some qty =>
      dsimp only
      split
      · exact logged _ _
      · exact booked _ _ _

variable {phase : Phase} {bot : ℕ}

section

variable (calm : phase.Calm)
include calm

/-! ### Orders -/

theorem tryOrder_follows (holds : phase.holds = some bot) (order : Order) :
    lane.Follows phase (tryOrder bot order)
      (ends (fun filled reached =>
          reached = filled.elim phase fun qty => phase.filled bot order.side qty)
        fun reached => reached = phase) := by
  have placed : lane.Follows phase (await (.placeOrder bot order))
      (ends (fun qty reached => reached = phase.filled bot order.side qty)
        fun reached => reached = phase) := by
    refine Follows.perform ⟨holds, calm.flight⟩ (fun qty => rfl) fun failure => ?_
    exact Phase.dropped_of_calm calm
  refine Follows.recover (Follows.bind placed fun qty reached same => same) ?_
  intro message reached same
  rw [same]
  exact Stays.andThen (stays_log calm _ _) (fun _ => rfl) rfl

theorem bookLong_lands (settings : BotSettings) (price quoteQty qty : ℚ) :
    lane.Follows (phase.flying ⟨bot, .buy, qty⟩) (bookLong bot settings price quoteQty qty)
      (ends (fun _ reached => reached = phase) fun reached => reached = phase) := by
  refine Follows.andThen (flies_log calm _ _) fun _ => ?_
  refine Follows.moves (fun _ => phase) rfl (fun _ => Phase.landed_flying calm)
    (fun _ => Phase.dropped_flying calm) fun _ => ?_
  refine Stays.bind (stays_plain trivial calm) fun _ => ?_
  refine Stays.bind (stays_plain trivial calm) fun _ => ?_
  exact stays_log calm _ _

theorem placeLong_stays (holds : phase.holds = some bot) (settings : BotSettings)
    (price quoteQty : ℚ) :
    lane.Stays phase (placeLong bot settings price quoteQty) := by
  refine Stays.bind (stays_log calm _ _) fun _ => ?_
  refine Follows.bind (tryOrder_follows calm holds _) fun filled reached same => ?_
  rw [same]
  cases filled with
  | none => exact rfl
  | some qty =>
    show lane.Follows (phase.filled bot .buy qty) (if qty ≤ 0 then _ else _) _
    by_cases nothing : qty ≤ 0
    · rw [if_pos nothing, Phase.filled, if_pos ⟨rfl, nothing⟩]
      exact stays_log calm _ _
    · rw [if_neg nothing, Phase.filled, if_neg fun both => nothing both.2]
      exact bookLong_lands calm settings price quoteQty qty

theorem openLong_stays (holds : phase.holds = some bot) (price : ℚ) :
    lane.Stays phase (openLong bot price) := by
  refine Stays.bind (stays_plain trivial calm) fun reading => ?_
  dsimp only
  split
  · exact stays_log calm _ _
  · exact placeLong_stays calm holds _ _ _

theorem bookFlat_lands (settings : BotSettings) (price soldQty : ℚ) :
    lane.Follows (phase.flying ⟨bot, .sell, soldQty⟩) (bookFlat bot settings price soldQty)
      (ends (fun _ reached => reached = phase) fun reached => reached = phase) := by
  refine Follows.andThen (flies_log calm _ _) fun _ => ?_
  refine Follows.andThen (flies_plain trivial calm) fun reading => ?_
  refine Follows.andThen (flies_plain trivial calm) fun _ => ?_
  refine Follows.andThen (flies_plain trivial calm) fun _ => ?_
  refine Follows.andThen (flies_log calm _ _) fun _ => ?_
  exact Follows.perform ⟨soldQty, rfl⟩ (fun _ => Phase.landed_flying calm)
    fun _ => Phase.dropped_flying calm

theorem placeFlat_stays (holds : phase.holds = some bot) (settings : BotSettings) (price qty : ℚ) :
    lane.Stays phase (placeFlat bot settings price qty) := by
  refine Stays.bind (stays_log calm _ _) fun _ => ?_
  refine Stays.bind (stays_plain trivial calm) fun reading => ?_
  refine Follows.bind (tryOrder_follows calm holds _) fun filled reached same => ?_
  rw [same]
  cases filled with
  | none => exact rfl
  | some soldQty => exact bookFlat_lands calm settings price soldQty

theorem closePosition_stays (holds : phase.holds = some bot) (price : ℚ) :
    lane.Stays phase (closePosition bot price) := by
  refine Stays.bind (stays_plain trivial calm) fun reading => ?_
  split
  · exact rfl
  · exact placeFlat_stays calm holds _ _ _

theorem closeHeld_stays (holds : phase.holds = some bot) (price : ℚ) :
    lane.Stays phase (closeHeld bot price) := by
  refine Stays.bind (stays_plain trivial calm) fun reading => ?_
  split
  · exact closePosition_stays calm holds price
  · exact rfl

end

/-! ### Overwritten sizes -/

theorem restoring_stays {Value : Type} {body : Call Value} {saved : ℚ} (rested : phase.Rested)
    (tried : lane.Stays (phase.sized ⟨bot, saved, true⟩) body) :
    lane.Follows (phase.sized ⟨bot, saved, true⟩)
      (andFinally body (await (.restoreSize bot saved)))
      (ends (fun _ reached => reached = phase) fun reached => reached = phase) := by
  have restored : lane.Follows (phase.sized ⟨bot, saved, true⟩) (await (.restoreSize bot saved))
      (ends (fun _ reached => reached = phase) fun reached => reached = phase) :=
    Follows.perform rfl (fun _ => Phase.restored_sized rested)
      fun _ => Phase.restored_sized rested
  refine Follows.finally tried (fun value reached same => ?_) fun reached same => ?_
  · rw [same]
    exact restored
  · rw [same]
    exact restored

theorem probeRoundTrip_stays (calm : phase.Calm) (holds : phase.holds = some bot)
    (settings : BotSettings) (price : ℚ) :
    lane.Stays phase (probeRoundTrip bot settings price) := by
  refine Stays.bind (openLong_stays calm holds price) fun _ => ?_
  refine Stays.bind (stays_plain trivial calm) fun reading => ?_
  split
  · refine Stays.bind (stays_log calm _ _) fun _ => ?_
    refine Stays.bind (closePosition_stays calm holds price) fun _ => ?_
    exact stays_log calm _ _
  · exact rfl

theorem runLiveStartupProbe_stays (rested : phase.Rested) (holds : phase.holds = some bot)
    (settings : BotSettings) : lane.Stays phase (runLiveStartupProbe bot settings) := by
  refine Stays.bind (stays_plain trivial rested.calm) fun found => ?_
  cases found with
  | none => exact stays_log rested.calm _ _
  | some price =>
    refine Follows.moves (fun saved => saved.elim phase fun saved => phase.sized ⟨bot, saved, true⟩)
      ⟨holds, rested.sizing⟩ (fun saved => ?_) (fun _ => Phase.dropped_of_calm rested.calm)
      fun saved => ?_
    · cases saved <;> exact rfl
    cases saved with
    | none => exact stays_log rested.calm _ _
    | some saved =>
      have calm : (phase.sized ⟨bot, saved, true⟩).Calm := rested.calm_sized bot saved
      refine restoring_stays rested ?_
      exact Stays.recover (probeRoundTrip_stays calm holds settings price)
        fun _ => stays_log calm _ _

theorem forceOpen_stays (rested : phase.Rested) (holds : phase.holds = some bot)
    (price size : ℚ) : lane.Stays phase (forceOpen bot price size) := by
  refine Follows.moves (fun saved => phase.sized ⟨bot, saved, false⟩) ⟨holds, rested.sizing⟩
    (fun _ => rfl) (fun _ => Phase.dropped_of_calm rested.calm) fun saved => ?_
  have logged : ∀ kind message, lane.Follows (phase.sized ⟨bot, saved, false⟩) (log kind message)
      (ends (fun _ reached => reached = phase.sized ⟨bot, saved, true⟩)
        fun reached => reached = phase) := fun kind message =>
    Follows.perform trivial (fun _ => rfl)
      fun _ => Phase.dropped_unguarded rested bot saved
  refine Follows.andThen (logged _ _) fun _ => ?_
  have calm : (phase.sized ⟨bot, saved, true⟩).Calm := rested.calm_sized bot saved
  refine restoring_stays rested ?_
  refine Stays.recover ?_ fun message => ?_
  · exact Stays.bind (openLong_stays calm holds price) fun _ => rfl
  · exact Stays.bind (stays_log calm _ _) fun _ => rfl

/-! ### The parts of a tick -/

theorem hardExits_stays (calm : phase.Calm) (holds : phase.holds = some bot) (price : ℚ) :
    lane.Stays phase (hardExits bot price) := by
  refine Stays.bind (stays_plain trivial calm) fun exitPrefs => ?_
  have closed : ∀ kind message, lane.Stays phase (log kind message >>= fun _ =>
      closePosition bot price >>= fun _ => pure true) := fun kind message =>
    Stays.bind (stays_log calm _ _) fun _ =>
      Stays.bind (closePosition_stays calm holds price) fun _ => rfl
  split
  · refine Stays.bind (stays_plain trivial calm) fun reading => ?_
    dsimp only
    split
    · exact closed _ _
    · split
      · exact closed _ _
      · exact rfl
  · exact rfl

theorem advise_stays (calm : phase.Calm) (symbol : String) (sizeUsdt accountEquityUsdt : ℚ) :
    lane.Stays phase (advise symbol sizeUsdt accountEquityUsdt) := by
  refine Stays.recover ?_ fun _ => rfl
  exact Stays.bind (stays_plain trivial calm) fun _ => rfl

theorem usdtBalance_stays (calm : phase.Calm) : lane.Stays phase usdtBalance :=
  Stays.recover (stays_plain trivial calm) fun _ => rfl

theorem forceFirst_stays (rested : phase.Rested) (holds : phase.holds = some bot) (price : ℚ) :
    lane.Stays phase (forceFirst bot price) := by
  refine Stays.bind (usdtBalance_stays rested.calm) fun balance => ?_
  cases balance with
  | none => exact rfl
  | some realBal =>
    dsimp only
    split
    · refine Stays.bind (stays_plain trivial rested.calm) fun reading => ?_
      split
      · refine Stays.bind (advise_stays rested.calm _ _ _) fun advisory => ?_
        split
        · exact Stays.bind (stays_log rested.calm _ _) fun _ => rfl
        · exact forceOpen_stays rested holds price _
      · exact Stays.bind (stays_log rested.calm _ _) fun _ => rfl
    · exact rfl

theorem heedCaution_stays (calm : phase.Calm) (advisory : Advisory) :
    lane.Stays phase (heedCaution bot advisory) := by
  refine Stays.bind (stays_plain trivial calm) fun reading => ?_
  split
  · exact Stays.bind (stays_log calm _ _) fun _ => stays_plain trivial calm
  · exact rfl

theorem passAdvisor_stays (calm : phase.Calm) (reading : BotReading) (capitalUsd : ℚ) :
    lane.Stays phase (passAdvisor bot reading capitalUsd) := by
  refine Stays.bind (advise_stays calm _ _ _) fun advisory => ?_
  cases advisory with
  | none => exact rfl
  | some advisory =>
    show lane.Stays phase (if ¬ advisory.allow then _ else _)
    split
    · exact Stays.bind (stays_log calm _ _) fun _ => rfl
    · split
      · exact Stays.bind (heedCaution_stays calm advisory) fun _ => rfl
      · exact rfl

theorem execute_stays (calm : phase.Calm) (holds : phase.holds = some bot) (price : ℚ)
    (intent : Paper.Intent) : lane.Stays phase (execute bot price intent) := by
  cases intent with
  | buy => exact openLong_stays calm holds price
  | sell => exact closePosition_stays calm holds price

theorem carryOut_stays (calm : phase.Calm) (holds : phase.holds = some bot)
    (price capitalUsd : ℚ) (signal : Paper.AISignalResult) (reading : BotReading)
    (intent : Paper.Intent) :
    lane.Stays phase (carryOut bot price capitalUsd signal reading intent) := by
  unfold carryOut
  split
  · refine Stays.bind (passAdvisor_stays calm reading capitalUsd) fun passed => ?_
    split
    · exact execute_stays calm holds price intent
    · exact rfl
  · exact execute_stays calm holds price intent

theorem tickDecision_stays (calm : phase.Calm) (holds : phase.holds = some bot)
    (price capitalUsd : ℚ) (signal : Paper.AISignalResult) :
    lane.Stays phase (tickDecision bot price capitalUsd signal) := by
  refine Stays.bind (stays_plain trivial calm) fun pnls => ?_
  refine Stays.bind (stays_plain trivial calm) fun reading => ?_
  split
  · split
    · exact stays_log calm _ _
    · exact rfl
  · exact carryOut_stays calm holds price capitalUsd signal reading _

/-! ### Ticks -/

/-- What a call that holds a bot ends with before it settles. -/
def AtRest (program : Call Unit) (phase : Phase) : Prop :=
  lane.Follows phase program (ends (fun _ reached => reached.Rested) Phase.Rested)

theorem AtRest.of_stays {program : Call Unit} (stays : lane.Stays phase program)
    (rested : phase.Rested) : AtRest program phase := by
  refine Follows.mono stays fun result reached same => ?_
  cases result <;> exact Eq.mpr (congrArg Phase.Rested same) rested

theorem AtRest.after {Value : Type} {first : Call Value} {next : Value → Call Unit}
    (head : lane.Stays phase first) (tail : ∀ value, AtRest (next value) phase)
    (rested : phase.Rested) : AtRest (first >>= next) phase :=
  Stays.andThen head tail rested

theorem AtRest.recover {body : Call Unit} {handler : String → Call Unit}
    (tried : AtRest body phase) (caught : ∀ failure, handler failure = pure ()) :
    AtRest (Program.recover body handler) phase := by
  refine Follows.recover tried fun failure reached rested => ?_
  rw [caught failure]
  exact rested

section

variable (rested : phase.Rested) (holds : phase.holds = some bot)
include rested holds

theorem emergencyStop_atRest (reason : String) : AtRest (emergencyStop bot reason) phase := by
  have left : phase.left.Rested := ⟨rested.flight, rested.sizing⟩
  refine Follows.moves (fun _ => phase.left) holds (fun _ => rfl) (fun _ => ?_) fun _ => ?_
  · exact Eq.mpr (congrArg Phase.Rested (Phase.dropped_of_calm rested.calm)) rested
  exact AtRest.of_stays (Stays.recover (stays_plain trivial left.calm) fun _ => rfl) left

theorem tickObserved_atRest (price : ℚ) (signal : Paper.AISignalResult) (observation : Observation) :
    AtRest (tickObserved bot price signal observation) phase := by
  unfold tickObserved
  split
  · refine AtRest.after (stays_log rested.calm _ _) (fun _ => ?_) rested
    refine AtRest.after (closeHeld_stays rested.calm holds price) (fun _ => ?_) rested
    exact emergencyStop_atRest rested holds _
  · refine AtRest.of_stays ?_ rested
    exact Stays.bind (stays_log rested.calm _ _) fun _ =>
      tickDecision_stays rested.calm holds price _ signal
  · exact AtRest.of_stays (tickDecision_stays rested.calm holds price _ signal) rested

theorem tickSignal_atRest (settings : BotSettings) (price : ℚ) :
    AtRest (tickSignal bot settings price) phase := by
  refine AtRest.after (stays_plain trivial rested.calm) (fun found => ?_) rested
  cases found with
  | none => exact rested
  | some signal =>
    refine AtRest.after (stays_log rested.calm _ _) (fun _ => ?_) rested
    refine AtRest.after (stays_plain trivial rested.calm) (fun portfolio => ?_) rested
    refine AtRest.after (stays_plain trivial rested.calm) (fun observation => ?_) rested
    exact tickObserved_atRest rested holds price signal observation

theorem firstIfDue_stays (price : ℚ) (isFirst : Bool) :
    lane.Stays phase (firstIfDue bot price isFirst) := by
  unfold firstIfDue
  split
  · exact forceFirst_stays rested holds price
  · exact rfl

theorem tickEntry_stays (price : ℚ) (tickStart : TickStart) :
    lane.Stays phase (tickEntry bot price tickStart) := by
  cases tickStart with
  | holding =>
    refine Stays.bind (hardExits_stays rested.calm holds price) fun ended => ?_
    split
    · exact rfl
    · exact Stays.bind (stays_plain trivial rested.calm) fun isFirst =>
        firstIfDue_stays rested holds price isFirst
  | first => exact firstIfDue_stays rested holds price true
  | later => exact firstIfDue_stays rested holds price false

theorem tick_atRest (settings : BotSettings) : AtRest (tick bot settings) phase := by
  refine AtRest.after (stays_plain trivial rested.calm) (fun found => ?_) rested
  cases found with
  | none => exact rested
  | some price =>
    refine AtRest.after (stays_plain trivial rested.calm) (fun tickStart => ?_) rested
    refine AtRest.after (tickEntry_stays rested holds price tickStart) (fun ended => ?_) rested
    split
    · exact rested
    · exact tickSignal_atRest rested holds settings price

end

/-! ### Calls -/

/-- What is said of a call once it has ended. -/
def Ended : Except String Unit → Phase → Prop := @ends venue Phase Unit (fun _ _ => True) fun _ => True

theorem holding_follows {body : Call Unit} (atRest : AtRest body phase) :
    lane.Follows phase (holding bot body) Ended := by
  have settles : ∀ reached : Phase, reached.Rested → lane.Follows reached (await (.settle bot))
      anywhere := fun reached rested =>
    Follows.perform rested (fun _ => trivial) fun _ => trivial
  exact Follows.finally atRest (fun _ => settles) settles

/-- A phase in which a call has come to hold a bot. -/
def Phase.at (bot : ℕ) (stopping : Bool) : Phase := ⟨some bot, stopping, none, none⟩

theorem Phase.rested_at (bot : ℕ) (stopping : Bool) : (Phase.at bot stopping).Rested := ⟨rfl, rfl⟩

theorem Phase.rested_idle : Phase.idle.Rested := ⟨rfl, rfl⟩

theorem startBot_atRest (rested : phase.Rested) (holds : phase.holds = some bot)
    (settings : BotSettings) : AtRest (startBot bot settings) phase :=
  AtRest.after (runLiveStartupProbe_stays rested holds settings)
    (fun _ => AtRest.recover (tick_atRest rested holds settings) fun _ => rfl) rested

theorem start_follows (settings : BotSettings) :
    lane.Follows .idle (start settings) Ended := by
  have calm : Phase.idle.Calm := Phase.rested_idle.calm
  refine Stays.andThen (stays_plain trivial calm) (fun running => ?_) trivial
  refine Follows.throwIf (fun _ => trivial) fun _ => ?_
  refine Stays.andThen (stays_plain trivial calm) (fun portfolio => ?_) trivial
  exact Follows.moves (.at · false) rfl (fun _ => rfl) (fun _ => trivial) fun bot =>
    holding_follows (startBot_atRest (Phase.rested_at bot false) rfl settings)

theorem stopPosition_stays (calm : phase.Calm) (holds : phase.holds = some bot)
    (found : LiveBot) : lane.Stays phase (stopPosition bot found) := by
  unfold stopPosition
  split
  · refine Stays.bind (stays_plain trivial calm) fun price => ?_
    cases price with
    | none => exact rfl
    | some price => exact closePosition_stays calm holds price
  · exact rfl

theorem sessionSeconds_stays (calm : phase.Calm) (session : Option ℕ) :
    lane.Stays phase (sessionSeconds session) := by
  cases session with
  | none => exact rfl
  | some startedAt => exact Stays.bind (stays_plain trivial calm) fun _ => rfl

theorem stopBot_atRest (found : LiveBot) :
    AtRest (stopBot bot found) (.at bot true) := by
  have rested : (Phase.at bot true).Rested := Phase.rested_at bot true
  refine AtRest.after (stopPosition_stays rested.calm rfl found) (fun _ => ?_) rested
  refine AtRest.after (stays_plain trivial rested.calm) (fun session => ?_) rested
  refine AtRest.after (sessionSeconds_stays rested.calm session) (fun _ => ?_) rested
  refine AtRest.after (stays_plain trivial rested.calm) (fun _ => ?_) rested
  refine Follows.perform ⟨Option.some_ne_none bot, rfl⟩ (fun _ => ⟨rfl, rfl⟩) ?_
  exact fun _ => ⟨rfl, rfl⟩

theorem stop_follows : lane.Follows .idle stop Ended := by
  refine Follows.moves (fun found => found.elim .idle fun found => .at found.1 true) rfl
    (fun found => ?_) (fun _ => trivial) fun found => ?_
  · cases found <;> exact rfl
  refine Follows.orThrow (fun _ => trivial) fun present isPresent => ?_
  rw [isPresent]
  exact holding_follows (stopBot_atRest present.2)

theorem intervalTick_follows (bot : ℕ) : lane.Follows .idle (intervalTick bot) Ended := by
  refine Follows.moves (fun settings => settings.elim .idle fun _ => .at bot false) rfl
    (fun settings => ?_) (fun _ => trivial) fun settings => ?_
  · cases settings <;> exact rfl
  cases settings with
  | none => exact trivial
  | some settings =>
    refine holding_follows (AtRest.recover ?_ fun _ => rfl)
    exact tick_atRest (Phase.rested_at bot false) rfl settings

/-- Every request goes through the phases. -/
theorem request_follows (request : Request) : lane.Follows .idle request.call Ended := by
  cases request with
  | start settings => exact start_follows settings
  | stop => exact stop_follows
  | interval bot => exact intervalTick_follows bot

end GdslExchange.Live
