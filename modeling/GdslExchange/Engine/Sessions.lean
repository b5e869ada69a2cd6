/-
This file settles when the sessions of a user match the bot that runs. The row and the map of
bots are changed one after the other, by starts, stops and emergency stops, with calls in
between that may fail; so a session without a bot is owed something by whoever is to change the
other of the two, and in a run in which nobody walks away from what he owes, the two match
whenever nobody is at work.
-/

import GdslExchange.Engine.Course
import GdslExchange.Live.Agreement

namespace GdslExchange.Engine

open Async
open Async (Delivery)
open Live (BotSettings)

/-! ### Active sessions -/

namespace Sessions

variable {sessions : Sessions} {id other : ℕ}

theorem mem_active :
    id ∈ sessions.active ↔ (sessions.find id).any BotSession.isActive = true := by
  refine List.mem_filter.trans ⟨And.right, fun isActive => ⟨?_, isActive⟩⟩
  rw [List.mem_range]
  by_contra beyond
  rw [find, List.getElem?_eq_none (Nat.le_of_not_lt beyond)] at isActive
  cases isActive

theorem nodup_active (sessions : Sessions) : sessions.active.Nodup :=
  List.Nodup.filter _ List.nodup_range

theorem mem_active_create (strategyId : String) :
    id ∈ (sessions.create strategyId).active ↔ id ∈ sessions.active ∨ id = sessions.length := by
  rw [mem_active, mem_active, find, find, create, List.getElem?_append]
  split
  · next within => simp [Nat.ne_of_lt within]
  · next beyond =>
    rw [List.getElem?_eq_none (Nat.le_of_not_lt beyond)]
    by_cases last : id = sessions.length
    · simp [last]
    · have after : 1 ≤ id - sessions.length := by omega
      rw [List.getElem?_eq_none after]
      simp [last]

theorem mem_active_deactivate :
    other ∈ (sessions.deactivate id).active ↔ other ≠ id ∧ other ∈ sessions.active := by
  rw [mem_active, mem_active, find, find, deactivate, List.getElem?_modify]
  split
  · next same =>
    rw [same]
    rcases sessions[other]? with _ | _ | session <;> simp [BotSession.stopped]
  · next different => simp [Ne.symm different]

theorem mem_active_delete :
    other ∈ (sessions.delete id).active ↔ other ≠ id ∧ other ∈ sessions.active := by
  rw [mem_active, mem_active, find, find, delete, List.getElem?_set]
  split
  · next same =>
    rw [same]
    split <;> simp
  · next different => simp [Ne.symm different]

theorem active_deactivateAll (sessions : Sessions) : sessions.deactivateAll.active = [] := by
  refine List.eq_nil_iff_forall_not_mem.mpr fun id => ?_
  rw [mem_active, find, deactivateAll, List.getElem?_map]
  rcases sessions[id]? with _ | _ | session <;> simp [BotSession.stopped]

theorem not_mem_active (absent : sessions.find id = none) : id ∉ sessions.active := by
  rw [mem_active, absent]
  simp

end Sessions

/-! ### Matching -/

def activeSessions (moment : Moment engine) : List ℕ := moment.state.sessions.active

def running (moment : Moment engine) : Option ℕ := moment.state.live.running

def awaited {Value : Type} : Call Value → Option Op
  | .await op _ => some op
  | .done _ => none
  | .failed _ => none

/-- A start or a stop is in progress from its first answer to its end, and an emergency stop of a
tick until it has persisted itself. -/
def Request.InProgress (request : Request) (moment : Moment engine) (caller : ℕ)
    (program : Call (Option Response)) : Prop :=
  match request with
  | start _ => moment.own caller ≠ [] ∧ (awaited program).isSome = true
  | stop => moment.own caller ≠ [] ∧ (awaited program).isSome = true
  | firstTick _ => ∃ reason, awaited program = some (.bot (.persistStop reason))
  | intervalTick _ => ∃ reason, awaited program = some (.bot (.persistStop reason))

/-- Nobody is at work on the sessions. -/
def Quiet (requests : List Request) (system : System engine (Option Response)) : Prop :=
  ∀ (caller : ℕ) (request : Request) (program : Call (Option Response)),
    requests[caller]? = some request → system.calls[caller]? = some program →
      ¬ request.InProgress system.moment caller program

/-- At most one session is active, and one is exactly when a bot runs, unless someone is at work. -/
structure Matched (requests : List Request) (system : System engine (Option Response)) : Prop where
  single : (activeSessions system.moment).length ≤ 1
  paired : Quiet requests system →
    (activeSessions system.moment ≠ [] ↔ running system.moment ≠ none)

/-! ### Orderly steps -/

/-- What a caller owes, someone else does. -/
def Spared (before : Moment engine) (caller : ℕ) : Prop :=
  running before = none → ∀ id ∈ activeSessions before, (lane.phase before caller).Owes id →
    ∃ event ∈ before.log, event.caller ≠ caller ∧ (lane.phase before event.caller).Owes id

/-- A write that ends sessions takes effect only where no bot runs, and fails only where someone
else owes what its caller does. -/
def Ends (before : Moment engine) (caller : ℕ) (delivery : Delivery) (touches : Prop) : Prop :=
  if delivery.Applies then touches → running before = none else Spared before caller

def BotSuits (before : Moment engine) (caller : ℕ) (sweep : Delivery) : Live.Op → Prop
  | .installBot _ _ => activeSessions before ≠ []
  | .removeBot =>
    running before ≠ none → ∃ id ∈ activeSessions before, lane.phase before caller = .closing id
  | .persistStop _ => Ends before caller sweep (activeSessions before ≠ [])
  | _ => True

/-- What an operation finds. -/
def Suits (before : Moment engine) (caller : ℕ) : (op : Op) → Fate op → Prop
  | .createSession _, delivery =>
    delivery.Applies → delivery.Truthful ∧ activeSessions before = []
  | .createRun _, answer => answer.isOk = false → Spared before caller
  | .updateSession id, delivery => Ends before caller delivery (id ∈ activeSessions before)
  | .deleteSession id, delivery => Ends before caller delivery (id ∈ activeSessions before)
  | .bot op, fate => BotSuits before caller fate.sweep op
  | _, _ => True

/-- A session is created where none is active, and known to its start; a bot is set where a
session is active, and taken away by a stop that has found the active one; sessions end where no
bot runs; and nobody fails to settle what he alone owes. -/
def Orderly (step : Step engine) : Prop := Suits step.before step.caller step.op step.fate

section Decidable

variable (before : Moment engine) (caller : ℕ)

instance : Decidable (Spared before caller) :=
  inferInstanceAs (Decidable (_ → ∀ id ∈ activeSessions before, _ → ∃ event ∈ before.log, _ ∧ _))

instance (delivery : Delivery) (touches : Prop) [Decidable touches] :
    Decidable (Ends before caller delivery touches) :=
  inferInstanceAs (Decidable (if delivery.Applies then touches → _ else _))

instance (sweep : Delivery) (op : Live.Op) : Decidable (BotSuits before caller sweep op) :=
  match op with
  | .installBot _ _ => inferInstanceAs (Decidable (_ ≠ _))
  | .removeBot => inferInstanceAs (Decidable (_ → ∃ id ∈ activeSessions before, _ = _))
  | .persistStop _ => inferInstanceAs (Decidable (Ends _ _ _ _))
  | .isRunning | .fire _ | .settle _ | .clearTimer | .emergencyRemove _ | .readBot _ | .openTick _
  | .claimFirstTick _ | .beginProbe _ | .overwriteSize _ _ | .restoreSize _ _ | .reduceSize _ _
  | .observeEquity _ _ | .setLong _ _ _ | .stampExecution _ | .setFlat _ | .placeOrder _ _
  | .fetchPrice _ | .findPortfolio | .updatePortfolio _ | .appendTradingLog _ _
  | .getCexExitSettings | .fetchBinanceUsdtBalance | .evaluateTradeIntent _ _ _
  | .computeAISignal _ | .findClosedPnls | .findActiveSession | .countOrdersSince _
  | .currentTime => inferInstanceAs (Decidable True)

instance (op : Op) (fate : Fate op) : Decidable (Suits before caller op fate) :=
  match op, fate with
  | .createSession _, _ => inferInstanceAs (Decidable (_ → _ ∧ _))
  | .createRun _, _ => inferInstanceAs (Decidable (_ → _))
  | .updateSession _, _ => inferInstanceAs (Decidable (Ends _ _ _ _))
  | .deleteSession _, _ => inferInstanceAs (Decidable (Ends _ _ _ _))
  | .bot op, fate => inferInstanceAs (Decidable (BotSuits _ _ fate.sweep op))
  | .findStrategy _, _ | .computeOpenSignalSnapshot _, _ | .computeAutomationReadiness _, _
  | .findConnection _, _ | .getFreeUsdt _ _, _ | .findMaxOrderNotional, _ | .findActiveSession, _
  | .findRunningRun, _ | .stopRun _ _, _ | .failRun _ _, _ | .createEvent _ _, _ =>
    inferInstanceAs (Decidable True)

instance (step : Step engine) : Decidable (Orderly step) :=
  inferInstanceAs (Decidable (Suits _ _ _ _))

end Decidable

/-! ### What steps keep -/

/-- A bot that runs has a session, and a session without a bot is owed something. -/
structure Accounted (moment : Moment engine) : Prop where
  single : ∀ first ∈ activeSessions moment, ∀ second ∈ activeSessions moment, first = second
  backed : running moment ≠ none → activeSessions moment ≠ []
  owed : running moment = none → ∀ id ∈ activeSessions moment,
    ∃ caller, (lane.phase moment caller).Owes id

theorem running_steady {op : Live.Op} (installs : ∀ settings peak, op ≠ .installBot settings peak)
    (removes : op ≠ .removeBot) (stops : ∀ bot, op ≠ .emergencyRemove bot) (fate : Live.Fate op)
    (desk : Live.Desk) : (Live.perform op fate desk).1.running = desk.running := by
  let same (reached : Live.Desk) : Prop := reached.running = desk.running
  show same (Live.perform op fate desk).1
  cases op with
  | installBot settings peak => exact (installs settings peak rfl).elim
  | removeBot => exact (removes rfl).elim
  | emergencyRemove bot => exact (stops bot rfl).elim
  | clearTimer =>
    show same (Live.clearRunning desk).1
    unfold Live.clearRunning
    split
    · exact rfl
    · exact Live.withBot_keeps rfl fun _ => rfl
  | placeOrder bot order => cases fate <;> exact rfl
  | _ => first | exact rfl | exact Live.withBot_keeps rfl fun _ => rfl

section Steps

variable {step : Step engine}

def reachedPhase (step : Step engine) : Phase :=
  (lane.phase step.before step.caller).next step.op step.reply

theorem owed_after {id : ℕ}
    (still : (lane.phase step.before step.caller).Owes id → (reachedPhase step).Owes id ∨
      ∃ event ∈ step.before.log, event.caller ≠ step.caller ∧
        (lane.phase step.before event.caller).Owes id)
    (owed : ∃ caller, (lane.phase step.before caller).Owes id) :
    ∃ caller, (lane.phase step.after caller).Owes id := by
  obtain ⟨caller, owes⟩ := owed
  have others : ∀ other ≠ step.caller, (lane.phase step.before other).Owes id →
      ∃ caller, (lane.phase step.after caller).Owes id := by
    intro other different owes
    refine ⟨other, ?_⟩
    rw [Protocol.phase_after_other step different]
    exact owes
  by_cases own : caller = step.caller
  · rw [own] at owes
    rcases still owes with now | ⟨event, -, different, owesToo⟩
    · refine ⟨step.caller, ?_⟩
      rw [Protocol.phase_after_self]
      exact now
    · exact others event.caller different owesToo
  · exact others caller own owes

/-- A step that changes neither the sessions that are active nor which bot runs. -/
theorem accounted_of_same (accounted : Accounted step.before)
    (sameActive : activeSessions step.after = activeSessions step.before)
    (sameRunning : running step.after = running step.before)
    (still : running step.before = none → ∀ id ∈ activeSessions step.before,
      (lane.phase step.before step.caller).Owes id → (reachedPhase step).Owes id ∨
        ∃ event ∈ step.before.log, event.caller ≠ step.caller ∧
          (lane.phase step.before event.caller).Owes id) : Accounted step.after where
  single := by
    rw [sameActive]
    exact accounted.single
  backed := by
    rw [sameActive, sameRunning]
    exact accounted.backed
  owed := by
    rw [sameActive, sameRunning]
    exact fun idle id member => owed_after (still idle id member) (accounted.owed idle id member)

/-- Where no session is active and no bot runs, nothing is owed. -/
theorem accounted_of_none {moment : Moment engine} (empty : activeSessions moment = [])
    (idle : running moment = none) : Accounted moment where
  single first member := by
    rw [empty] at member
    cases member
  backed runs := (runs idle).elim
  owed _ id member := by
    rw [empty] at member
    cases member

/-- A write that ends a session, or does not. -/
theorem accounted_of_ends {id : ℕ} {delivery : Delivery} (accounted : Accounted step.before)
    (ends : Ends step.before step.caller delivery (id ∈ activeSessions step.before))
    (owes : ∀ other, (lane.phase step.before step.caller).Owes other → id = other)
    (sameRunning : running step.after = running step.before)
    (applied : delivery.Applies → ∀ other, other ∈ activeSessions step.after ↔
      other ≠ id ∧ other ∈ activeSessions step.before)
    (refused : ¬ delivery.Applies → activeSessions step.after = activeSessions step.before) :
    Accounted step.after := by
  unfold Ends at ends
  split at ends
  · next applies =>
    have isActive := applied applies
    by_cases touches : id ∈ activeSessions step.before
    · refine accounted_of_none (List.eq_nil_iff_forall_not_mem.mpr fun other member => ?_)
        (sameRunning.trans (ends touches))
      obtain ⟨different, earlier⟩ := (isActive other).mp member
      exact different (accounted.single other earlier id touches)
    · have same : ∀ other, other ∈ activeSessions step.after ↔
          other ∈ activeSessions step.before := by
        intro other
        rw [isActive other]
        exact ⟨And.right, fun member => ⟨fun isId => touches (isId ▸ member), member⟩⟩
      refine ⟨fun first isFirst second isSecond => ?_, fun runs => ?_, fun idle other member => ?_⟩
      · exact accounted.single first ((same first).mp isFirst) second ((same second).mp isSecond)
      · rw [sameRunning] at runs
        obtain ⟨other, member⟩ := List.exists_mem_of_ne_nil _ (accounted.backed runs)
        exact List.ne_nil_of_mem ((same other).mpr member)
      · rw [sameRunning] at idle
        have earlier := (same other).mp member
        refine owed_after (fun owesOther => ?_) (accounted.owed idle other earlier)
        exact (touches (owes other owesOther ▸ earlier)).elim
  · next lost =>
    exact accounted_of_same accounted (refused lost) sameRunning
      fun idle other member owesOther => Or.inr (ends idle other member owesOther)

/-! ### Steps of the routes -/

section Routes

variable {before : Moment engine} {caller : ℕ}

variable {delivery : Delivery}

theorem accounted_createSession {strategyId : String} (accounted : Accounted before)
    (isFree : lane.phase before caller = .free)
    (suits : delivery.Applies → delivery.Truthful ∧ activeSessions before = []) :
    Accounted (Step.mk before caller (.createSession strategyId) delivery).after := by
  set step : Step engine := ⟨before, caller, .createSession strategyId, delivery⟩ with stepIs
  cases delivery with
  | refused message =>
    refine accounted_of_same accounted rfl rfl fun _ id _ owes => ?_
    rw [show lane.phase step.before step.caller = .free from isFree] at owes
    exact owes.elim
  | lost message => exact (suits trivial).1.elim
  | answered =>
    have empty := (suits trivial).2
    have isNew : ∀ id, id ∈ activeSessions step.after ↔ id = before.state.sessions.length := by
      intro id
      refine (Sessions.mem_active_create strategyId).trans ⟨fun either => ?_, Or.inr⟩
      refine either.resolve_left fun member => ?_
      rw [show before.state.sessions.active = [] from empty] at member
      cases member
    have opens : lane.phase step.after caller = .opened before.state.sessions.length :=
      Protocol.phase_after_self step
    refine ⟨fun first isFirst second isSecond => ?_, fun _ => ?_, fun _ id member => ?_⟩
    · rw [(isNew first).mp isFirst, (isNew second).mp isSecond]
    · exact List.ne_nil_of_mem ((isNew _).mpr rfl)
    · refine ⟨caller, ?_⟩
      rw [opens]
      exact ((isNew id).mp member).symm

/-- A write to a session, which is there or not. -/
theorem active_update {desk : Desk} {id : ℕ} {delivery : Delivery} {change : Sessions}
    (ends : ∀ other, other ∈ change.active ↔ other ≠ id ∧ other ∈ desk.sessions.active) :
    (delivery.Applies → ∀ other,
      other ∈ (delivery.update desk (desk.sessions.find id)
          fun _ => (desk.withSessions change, ())).1.sessions.active ↔
        other ≠ id ∧ other ∈ desk.sessions.active) ∧
      (¬ delivery.Applies →
        (delivery.update desk (desk.sessions.find id)
          fun _ => (desk.withSessions change, ())).1.sessions.active = desk.sessions.active) := by
  rw [Delivery.update_state]
  refine ⟨fun applies other => ?_, fun refused => ?_⟩
  · rw [if_pos applies]
    cases found : desk.sessions.find id with
    | some session => exact ends other
    | none =>
      refine ⟨fun member => ⟨fun same => ?_, member⟩, And.right⟩
      exact Sessions.not_mem_active found (same ▸ member)
  · rw [if_neg refused]

theorem running_update {desk : Desk} {found : Option BotSession} {change : Sessions} :
    (delivery.update desk found fun _ => (desk.withSessions change, ())).1.live = desk.live := by
  rw [Delivery.update_state]
  split
  · cases found <;> rfl
  · rfl

theorem accounted_updateSession {id : ℕ} (accounted : Accounted before)
    (isFound : Found id (lane.phase before caller))
    (ends : Ends before caller delivery (id ∈ activeSessions before)) :
    Accounted (Step.mk before caller (.updateSession id) delivery).after := by
  have active := @active_update before.state id delivery _ fun _ => Sessions.mem_active_deactivate
  refine @accounted_of_ends ⟨before, caller, .updateSession id, delivery⟩ id delivery accounted
    ends (fun other owes => ?_) (congrArg Live.Desk.running running_update) active.1 active.2
  rcases isFound with isClosing | isRemoved
  · rw [show lane.phase _ _ = _ from isClosing] at owes
    exact owes.elim
  · rw [show lane.phase _ _ = _ from isRemoved] at owes
    exact owes

theorem accounted_deleteSession {id : ℕ} (accounted : Accounted before)
    (isOwn : lane.phase before caller = .opened id ∨ lane.phase before caller = .launched id)
    (ends : Ends before caller delivery (id ∈ activeSessions before)) :
    Accounted (Step.mk before caller (.deleteSession id) delivery).after := by
  have active := @active_update before.state id delivery _ fun _ => Sessions.mem_active_delete
  refine @accounted_of_ends ⟨before, caller, .deleteSession id, delivery⟩ id delivery accounted
    ends (fun other owes => ?_) (congrArg Live.Desk.running running_update) active.1 active.2
  rcases isOwn with isOpened | isLaunched
  · rw [show lane.phase _ _ = _ from isOpened] at owes
    exact owes
  · rw [show lane.phase _ _ = _ from isLaunched] at owes
    exact owes.elim

theorem accounted_createRun {strategyId : String} {answer : Except String ℕ}
    (accounted : Accounted before) (suits : answer.isOk = false → Spared before caller) :
    Accounted (Step.mk before caller (.createRun strategyId) answer).after := by
  refine accounted_of_same accounted rfl rfl fun idle id member owes => ?_
  cases answer with
  | ok run => exact Or.inl owes
  | error message => exact Or.inr (suits rfl idle id member owes)

theorem accounted_findActiveSession (accounted : Accounted before)
    (isFree : lane.phase before caller = .free) :
    Accounted (Step.mk before caller .findActiveSession delivery).after := by
  refine accounted_of_same accounted rfl rfl fun _ id _ owes => ?_
  rw [show lane.phase _ _ = _ from isFree] at owes
  exact owes.elim

end Routes

/-! ### Steps of the bots -/

section Bots

variable {before : Moment engine} {caller : ℕ}

section

variable (accounted : Accounted before)
include accounted

theorem accounted_installBot {settings : BotSettings} {peak : ℚ}
    {fate : BotFate (.installBot settings peak)} (suits : activeSessions before ≠ []) :
    Accounted (Step.mk before caller (.bot (.installBot settings peak)) fate).after where
  single := accounted.single
  backed _ := suits
  owed idle := (Option.some_ne_none _ idle).elim

theorem accounted_removeBot {fate : BotFate .removeBot}
    (isClosing : ∃ session, lane.phase before caller = .closing session)
    (suits : running before ≠ none →
      ∃ id ∈ activeSessions before, lane.phase before caller = .closing id) :
    Accounted (Step.mk before caller (.bot .removeBot) fate).after := by
  set step : Step engine := ⟨before, caller, .bot .removeBot, fate⟩ with stepIs
  refine ⟨accounted.single, fun runs => (runs rfl).elim, fun _ id member => ?_⟩
  by_cases idle : running before = none
  · obtain ⟨session, isClosing⟩ := isClosing
    refine owed_after (fun owes => ?_) (accounted.owed idle id member)
    rw [show lane.phase step.before step.caller = _ from isClosing] at owes
    exact owes.elim
  · obtain ⟨session, isActive, isClosing⟩ := suits idle
    have removed : lane.phase step.after caller = .removed session :=
      (Protocol.phase_after_self step).trans (congrArg Phase.remove isClosing)
    refine ⟨caller, ?_⟩
    rw [removed]
    exact accounted.single session isActive id member

theorem accounted_emergencyRemove {bot : ℕ} {fate : BotFate (.emergencyRemove bot)} :
    Accounted (Step.mk before caller (.bot (.emergencyRemove bot)) fate).after := by
  set step : Step engine := ⟨before, caller, .bot (.emergencyRemove bot), fate⟩ with stepIs
  cases isBot : before.state.live.bots[bot]? with
  | none =>
    have unchanged : Live.perform (.emergencyRemove bot) (fate.met _) before.state.live =
        (before.state.live, .error "no such bot") := Live.withBot_of_none isBot _ _
    have sameReply : step.reply = .error "no such bot" := congrArg Prod.snd unchanged
    have sameRunning : running step.after = running before :=
      congrArg (fun both => both.1.running) unchanged
    refine accounted_of_same accounted rfl sameRunning fun _ id _ owes => Or.inl ?_
    unfold reachedPhase
    rw [sameReply]
    exact owes
  | some found =>
    have removed := Live.withBot_of_some isBot
      (fun _ => { before.state.live.onBot bot fun found => { found with ticking := false } with
        running := none
        firstTickDone := false }) fun _ => ()
    have isReply : step.reply = .ok () := congrArg Prod.snd removed
    have sweeps : lane.phase step.after caller = .sweeping := by
      refine (Protocol.phase_after_self step).trans ?_
      rw [isReply]
      rfl
    have idle : running step.after = none := congrArg (fun both => both.1.running) removed
    refine ⟨accounted.single, fun runs => (runs idle).elim, fun _ id _ => ⟨caller, ?_⟩⟩
    rw [sweeps]
    trivial

theorem accounted_persistStop {reason : String} {fate : BotFate (.persistStop reason)}
    (ends : Ends before caller fate.sweep (activeSessions before ≠ [])) :
    Accounted (Step.mk before caller (.bot (.persistStop reason)) fate).after := by
  set step : Step engine := ⟨before, caller, .bot (.persistStop reason), fate⟩ with stepIs
  have sessions : step.after.state.sessions =
      if fate.sweep.Applies then before.state.sessions.deactivateAll else before.state.sessions :=
    rfl
  unfold Ends at ends
  split at ends
  · next applies =>
    rw [if_pos applies] at sessions
    have empty : activeSessions step.after = [] :=
      (congrArg Sessions.active sessions).trans (Sessions.active_deactivateAll _)
    refine accounted_of_none empty ?_
    by_contra runs
    exact runs (ends (accounted.backed runs))
  · next refused =>
    rw [if_neg refused] at sessions
    exact accounted_of_same accounted (congrArg Sessions.active sessions) rfl
      fun idle id member owes => Or.inr (ends idle id member owes)

theorem accounted_bot {op : Live.Op} {fate : BotFate op}
    (permitted : lane.permits (lane.phase before caller) (.bot op))
    (suits : BotSuits before caller fate.sweep op) :
    Accounted (Step.mk before caller (.bot op) fate).after := by
  cases op with
  | installBot settings peak => exact accounted_installBot accounted suits
  | removeBot => exact accounted_removeBot accounted permitted suits
  | emergencyRemove bot => exact accounted_emergencyRemove accounted
  | persistStop reason => exact accounted_persistStop accounted suits
  | _ =>
    refine accounted_of_same accounted rfl (running_steady ?_ ?_ ?_ _ _) fun _ _ _ => Or.inl <;>
      exact nofun

end

end Bots

theorem accounted_step (step : Step engine)
    (permitted : lane.permits (lane.phase step.before step.caller) step.op)
    (orderly : Orderly step) (accounted : Accounted step.before) : Accounted step.after := by
  obtain ⟨before, caller, op, fate⟩ := step
  cases op with
  | findActiveSession => exact accounted_findActiveSession accounted permitted
  | createSession strategyId => exact accounted_createSession accounted permitted orderly
  | updateSession id => exact accounted_updateSession accounted permitted orderly
  | deleteSession id => exact accounted_deleteSession accounted permitted orderly
  | createRun strategyId => exact accounted_createRun accounted orderly
  | bot op => exact accounted_bot accounted permitted orderly
  | _ => exact accounted_of_same accounted rfl rfl fun _ _ _ => Or.inl

end Steps

/-! ### Runs -/

section Runs

variable {past : Sessions} {maxOrderUsdt : ℚ} {requests : List Request}
  {turns : List (Turn engine)}

theorem accounted_run
    (orderly : ∀ step ∈ (engineSystem past maxOrderUsdt requests).steps turns, Orderly step) :
    Accounted ((engineSystem past maxOrderUsdt requests).run turns).moment := by
  have keeps : lane.Keeps Orderly Accounted := fun step permitted isOrderly accounted =>
    accounted_step step permitted isOrderly accounted
  have start : Accounted (engineSystem past maxOrderUsdt requests).moment :=
    accounted_of_none (Sessions.active_deactivateAll past) rfl
  exact (Protocol.sound keeps start
    (System.each_call fun _ request => request_follows maxOrderUsdt request) turns orderly).1.1

variable {program : Call (Option Response)}

/-- A call that has ended owes nothing. -/
theorem clear_of_ended {protocol : Protocol engine Phase} {phase : Phase}
    (follows : protocol.Follows phase program Settled) (ended : awaited program = none) :
    phase.Clear := by
  cases program with
  | done value => exact follows
  | failed failure => exact follows
  | await op resume => cases ended

theorem clear_of_tick {phase : Phase} (follows : tickLane.Follows phase program Settled)
    (quiet : ¬ ∃ reason, awaited program = some (.bot (.persistStop reason))) : phase.Clear := by
  cases program with
  | done value => exact follows
  | failed failure => exact follows
  | await op resume =>
    have ticks : Ticks phase op := follows.1
    cases phase with
    | free => exact Phase.clear_free
    | sweeping =>
      cases op with
      | bot op =>
        cases op with
        | persistStop reason => exact (quiet ⟨reason, rfl⟩).elim
        | _ => exact ticks.elim
      | _ => exact ticks.elim
    | _ => exact ticks.elim

variable {moment : Moment engine}

/-- A caller that has had no answer owes nothing. -/
theorem clear_of_unheard {caller : ℕ} (silent : moment.own caller = []) :
    (lane.phase moment caller).Clear := by
  unfold Protocol.phase
  rw [silent]
  exact Phase.clear_free

/-- A route that is not in progress owes nothing. -/
theorem clear_of_route {caller : ℕ}
    (follows : lane.Follows (lane.phase moment caller) program Settled)
    (idle : ¬ (moment.own caller ≠ [] ∧ (awaited program).isSome = true)) :
    (lane.phase moment caller).Clear := by
  by_cases silent : moment.own caller = []
  · exact clear_of_unheard silent
  · refine clear_of_ended follows ?_
    rw [← Option.not_isSome_iff_eq_none]
    exact fun isSome => idle ⟨silent, isSome⟩

theorem clear_of_idle {request : Request} {caller : ℕ}
    (follows : lane.Follows (lane.phase moment caller) program Settled)
    (ticks : request.IsTick → tickLane.Follows (lane.phase moment caller) program Settled)
    (idle : ¬ request.InProgress moment caller program) :
    (lane.phase moment caller).Clear := by
  cases request with
  | start body => exact clear_of_route follows idle
  | stop => exact clear_of_route follows idle
  | firstTick bot => exact clear_of_tick (ticks trivial) idle
  | intervalTick bot => exact clear_of_tick (ticks trivial) idle

theorem clear_of_quiet
    (quiet : Quiet requests ((engineSystem past maxOrderUsdt requests).run turns)) (caller : ℕ) :
    (lane.phase ((engineSystem past maxOrderUsdt requests).run turns).moment caller).Clear := by
  set system := engineSystem past maxOrderUsdt requests with systemIs
  have isLength : system.calls.length = requests.length := List.length_map _
  cases isRequest : requests[caller]? with
  | none =>
    have beyond : requests.length ≤ caller := List.getElem?_eq_none_iff.mp isRequest
    refine clear_of_unheard (List.filter_eq_nil_iff.mpr fun event member => ?_)
    have within := System.caller_lt_of_mem_log rfl turns event member
    rw [decide_eq_true_eq]
    omega
  | some request =>
    have within : caller < (system.run turns).calls.length := by
      rw [System.length_run, isLength]
      exact (List.getElem?_eq_some_iff.mp isRequest).1
    have isProgram := List.getElem?_eq_getElem within
    have isCall : ∀ program, system.calls[caller]? = some program →
        program = request.call maxOrderUsdt := by
      intro program found
      rw [show system.calls[caller]? = (requests[caller]?).map _ from List.getElem?_map,
        isRequest] at found
      exact (Option.some.inj found).symm
    have follows := Protocol.Follows.run (fun program found => by
      rw [isCall program found]
      exact request_follows maxOrderUsdt request) turns isProgram
    have ticks (isTick : request.IsTick) := Protocol.Follows.run (fun program found => by
      rw [isCall program found]
      exact tick_follows maxOrderUsdt isTick) turns isProgram
    exact clear_of_idle follows ticks (quiet caller request _ isRequest isProgram)

theorem matched_of_accounted
    (accounted : Accounted ((engineSystem past maxOrderUsdt requests).run turns).moment) :
    Matched requests ((engineSystem past maxOrderUsdt requests).run turns) where
  single := by
    have nodup := Sessions.nodup_active
      ((engineSystem past maxOrderUsdt requests).run turns).moment.state.sessions
    have single := accounted.single
    unfold activeSessions at single ⊢
    match isActive : ((engineSystem past maxOrderUsdt requests).run
      turns).moment.state.sessions.active with
    | [] => exact Nat.zero_le 1
    | [_] => exact Nat.le_refl 1
    | first :: second :: rest =>
      rw [isActive] at nodup single
      have same := single first (by simp) second (by simp)
      simp [same] at nodup
  paired quiet := by
    refine ⟨fun active idle => ?_, accounted.backed⟩
    obtain ⟨id, member⟩ := List.exists_mem_of_ne_nil _ active
    obtain ⟨caller, owes⟩ := accounted.owed idle id member
    exact clear_of_quiet quiet caller id owes

/-- Where every step is orderly, the sessions match the bot that runs in every state reached. -/
theorem matched_run
    (orderly : ∀ step ∈ (engineSystem past maxOrderUsdt requests).steps turns, Orderly step)
    {taken : List (Turn engine)} (isTaken : taken <+: turns) :
    Matched requests ((engineSystem past maxOrderUsdt requests).run taken) := by
  obtain ⟨rest, rfl⟩ := isTaken
  refine matched_of_accounted (accounted_run fun step member => orderly step ?_)
  rw [System.steps_append]
  exact List.mem_append_left _ member

end Runs

/-! ### A start and a stop -/

/-- Every call is answered, with an account that holds a hundred USDT. -/
def ready : (op : Op) → Fate op
  | .findStrategy _ => .ok (some "Momentum")
  | .computeOpenSignalSnapshot _ => .ok ⟨1, 1 / 2, 0⟩
  | .computeAutomationReadiness _ => .ok ⟨true, []⟩
  | .findConnection _ => .ok (some ⟨"key", "secret", true, false⟩)
  | .getFreeUsdt _ _ => .ok 100
  | .findMaxOrderNotional => .ok none
  | .findActiveSession => .answered
  | .createSession _ => .answered
  | .updateSession _ => .answered
  | .deleteSession _ => .answered
  | .createRun _ => .ok 0
  | .findRunningRun => .ok (some 0)
  | .stopRun _ _ => .ok ()
  | .failRun _ _ => .ok ()
  | .createEvent _ _ => .ok ()
  | .bot op => ⟨Live.fine op, .answered⟩

/-- The run of the bot is not written. -/
def runless : (op : Op) → Fate op
  | .createRun _ => .error "Connection terminated"
  | op => ready op

def bitcoin : StartBody := ⟨"momentum", .btc, .live "binance", none, some 20⟩

/-- A start with its probe, and a stop while its first tick has bought. -/
def startedAndStopped : List (Turn engine) :=
  List.replicate 40 ⟨0, ready⟩ ++ List.replicate 20 ⟨1, ready⟩ ++ List.replicate 40 ⟨2, ready⟩

theorem matched_run_started :
    Matched [.start bitcoin, .firstTick 0, .stop]
      ((engineSystem [] 25 [.start bitcoin, .firstTick 0, .stop]).run startedAndStopped) :=
  matched_run (by decide +kernel) (List.prefix_refl startedAndStopped)

/-- A start that cannot write the run of its bot leaves its session active. -/
theorem not_matched_run :
    ¬ Matched [.start bitcoin]
      ((engineSystem [] 25 [.start bitcoin]).run (List.replicate 40 ⟨0, runless⟩)) := by
  intro matched
  have left : activeSessions ((engineSystem [] 25 [.start bitcoin]).run
        (List.replicate 40 ⟨0, runless⟩)).moment ≠ [] ∧
      running ((engineSystem [] 25 [.start bitcoin]).run
        (List.replicate 40 ⟨0, runless⟩)).moment = none := by
    decide +kernel
  refine (matched.paired fun caller request program isRequest isProgram => ?_).mp left.1 left.2
  have ended : ∀ call ∈ ((engineSystem [] 25 [.start bitcoin]).run
      (List.replicate 40 ⟨0, runless⟩)).calls, (awaited call).isSome = false := by
    decide +kernel
  cases caller with
  | zero =>
    obtain rfl := Option.some.inj isRequest
    rintro ⟨-, awaits⟩
    rw [ended program (List.mem_of_getElem? isProgram)] at awaits
    cases awaits
  | succ caller => cases isRequest

end GdslExchange.Engine
