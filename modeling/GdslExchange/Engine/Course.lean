/-
This file reads a request of the engine as a caller that moves through phases: the session
that a start has opened and not yet given a bot, the session whose bot a stop has taken
away, and an emergency stop that has yet to persist itself. Whoever is in one of these
phases owes something to the sessions that are active.

The rest of what a live bot does leaves alone which bot runs, and which sessions are
active.
-/

import GdslExchange.Engine.Routes

namespace GdslExchange.Engine

open Async Async.Program
open Live (BotSettings BotReading LiveBot)
open Protocol (Follows Stays ends)

/-! ### Phases -/

inductive Phase where
  | free
  | opened (session : ℕ)
  | launched (session : ℕ)
  | closing (session : ℕ)
  | removed (session : ℕ)
  | sweeping
deriving DecidableEq

namespace Phase

/-- What a caller is about to settle. -/
def Owes : Phase → ℕ → Prop
  | opened session, id => session = id
  | removed session, id => session = id
  | sweeping, _ => True
  | free, _ => False
  | launched _, _ => False
  | closing _, _ => False

instance (phase : Phase) (id : ℕ) : Decidable (phase.Owes id) := by
  cases phase <;> unfold Owes <;> infer_instance

/-- The bot of the session that was opened is set. -/
def launch : Phase → Phase
  | opened session => launched session
  | phase => phase

/-- The bot of the session that was found is taken away. -/
def remove : Phase → Phase
  | closing session => removed session
  | phase => phase

def next (phase : Phase) (op : Op) (reply : Except String (Result op)) : Phase :=
  match op, reply with
  | .findActiveSession, .ok (some session) => closing session
  | .createSession _, .ok session => opened session
  | .createRun _, .error _ => free
  | .updateSession _, _ => free
  | .deleteSession _, _ => free
  | .bot (.installBot _ _), .ok _ => phase.launch
  | .bot .removeBot, .ok _ => phase.remove
  | .bot (.emergencyRemove _), .ok _ => sweeping
  | .bot (.persistStop _), _ => free
  | _, _ => phase

/-- Nothing is owed. -/
def Clear (phase : Phase) : Prop := ∀ id, ¬ phase.Owes id

theorem clear_free : free.Clear := fun _ => id

theorem clear_launched (session : ℕ) : (launched session).Clear := fun _ => id

theorem clear_closing (session : ℕ) : (closing session).Clear := fun _ => id

end Phase

def lane : Protocol engine Phase where
  start := .free
  permits phase
    | .findActiveSession => phase = .free
    | .createSession _ => phase = .free
    | .createRun _ => ∃ session, phase = .opened session
    | .updateSession session => phase = .closing session ∨ phase = .removed session
    | .deleteSession session => phase = .opened session ∨ phase = .launched session
    | .bot (.installBot _ _) => ∃ session, phase = .opened session
    | .bot .removeBot => ∃ session, phase = .closing session
    | .bot (.emergencyRemove _) => phase = .free
    | .bot (.persistStop _) => phase = .sweeping
    | _ => True
  next := Phase.next

/-- The phases as a live bot goes through them. -/
def botLane : Protocol Live.venue Phase where
  start := .free
  permits phase op := lane.permits phase (.bot op)
  next phase op reply := phase.next (.bot op) reply

/-- A tick is free until it stops its bot, and has then to persist that. -/
def Ticks (phase : Phase) (op : Op) : Prop :=
  match phase, op with
  | .free, .bot (.installBot _ _) => False
  | .free, .bot .removeBot => False
  | .free, .bot (.persistStop _) => False
  | .free, .bot _ => True
  | .sweeping, .bot (.persistStop _) => True
  | _, _ => False

/-- The phases of a call that only ticks. -/
def tickLane : Protocol engine Phase := { lane with permits := Ticks }

def botTickLane : Protocol Live.venue Phase :=
  { botLane with permits := fun phase op => Ticks phase (.bot op) }

/-! ### What leaves alone which bot runs -/

def Steady : Live.Op → Prop
  | .installBot _ _ => False
  | .removeBot => False
  | .emergencyRemove _ => False
  | .persistStop _ => False
  | _ => True

section Steady

variable (bot : ℕ) (price : ℚ)

theorem log_steady (kind : Live.LogKind) (message : String) : (Live.log kind message).Only Steady :=
  only_perform trivial

theorem await_steady {op : Live.Op} (steady : Steady op) : (Live.await op).Only Steady :=
  only_perform steady

theorem tryOrder_steady (order : Live.Order) : (Live.tryOrder bot order).Only Steady := by
  refine only_recover (only_then trivial fun _ => trivial) fun _ => ?_
  exact only_bind (log_steady _ _) fun _ => trivial

theorem bookLong_steady (settings : BotSettings) (quoteQty qty : ℚ) :
    (Live.bookLong bot settings price quoteQty qty).Only Steady := by
  refine only_bind (log_steady _ _) fun _ => ?_
  refine only_then trivial fun _ => ?_
  refine only_then trivial fun _ => ?_
  exact only_then trivial fun _ => log_steady _ _

theorem placeLong_steady (settings : BotSettings) (quoteQty : ℚ) :
    (Live.placeLong bot settings price quoteQty).Only Steady := by
  refine only_bind (log_steady _ _) fun _ => ?_
  refine only_bind (tryOrder_steady bot _) fun filled => ?_
  cases filled with
  | none => trivial
  | some qty =>
    dsimp only
    split
    · exact log_steady _ _
    · exact bookLong_steady bot price settings quoteQty qty

theorem openLong_steady : (Live.openLong bot price).Only Steady := by
  refine only_then trivial fun reading => ?_
  dsimp only
  split
  · exact log_steady _ _
  · exact placeLong_steady bot price _ _

theorem bookFlat_steady (settings : BotSettings) (soldQty : ℚ) :
    (Live.bookFlat bot settings price soldQty).Only Steady := by
  refine only_bind (log_steady _ _) fun _ => ?_
  refine only_then trivial fun reading => ?_
  refine only_then trivial fun _ => ?_
  refine only_then trivial fun _ => ?_
  exact only_bind (log_steady _ _) fun _ => await_steady trivial

theorem placeFlat_steady (settings : BotSettings) (qty : ℚ) :
    (Live.placeFlat bot settings price qty).Only Steady := by
  refine only_bind (log_steady _ _) fun _ => ?_
  refine only_then trivial fun reading => ?_
  refine only_bind (tryOrder_steady bot _) fun filled => ?_
  cases filled with
  | none => trivial
  | some soldQty => exact bookFlat_steady bot price settings soldQty

theorem closePosition_steady : (Live.closePosition bot price).Only Steady := by
  refine only_then trivial fun reading => ?_
  split
  · trivial
  · exact placeFlat_steady bot price _ _

theorem closeHeld_steady : (Live.closeHeld bot price).Only Steady := by
  refine only_then trivial fun reading => ?_
  split
  · exact closePosition_steady bot price
  · trivial

theorem runLiveStartupProbe_steady (settings : BotSettings) :
    (Live.runLiveStartupProbe bot settings).Only Steady := by
  refine only_then trivial fun found => ?_
  cases found with
  | none => exact log_steady _ _
  | some price =>
    refine only_then trivial fun begun => ?_
    cases begun with
    | none => exact log_steady _ _
    | some saved =>
      refine only_andFinally (only_recover ?_ fun _ => log_steady _ _) (await_steady trivial)
      refine only_bind (openLong_steady bot price) fun _ => ?_
      refine only_then trivial fun reading => ?_
      split
      · refine only_bind (log_steady _ _) fun _ => ?_
        exact only_bind (closePosition_steady bot price) fun _ => log_steady _ _
      · trivial

theorem hardExits_steady : (Live.hardExits bot price).Only Steady := by
  have closed (kind : Live.LogKind) (message : String) : (Live.log kind message >>= fun _ =>
      Live.closePosition bot price >>= fun _ => pure true).Only Steady :=
    only_bind (log_steady _ _) fun _ =>
      only_bind (closePosition_steady bot price) fun _ => trivial
  refine only_then trivial fun exitPrefs => ?_
  split
  · refine only_then trivial fun reading => ?_
    dsimp only
    split
    · exact closed _ _
    · split
      · exact closed _ _
      · trivial
  · trivial

theorem advise_steady (symbol : String) (sizeUsdt accountEquityUsdt : ℚ) :
    (Live.advise symbol sizeUsdt accountEquityUsdt).Only Steady :=
  only_recover (only_then trivial fun _ => trivial) fun _ => trivial

theorem forceOpen_steady (size : ℚ) : (Live.forceOpen bot price size).Only Steady := by
  refine only_then trivial fun saved => ?_
  refine only_bind (log_steady _ _) fun _ => ?_
  refine only_andFinally (only_recover ?_ fun _ => ?_) (await_steady trivial)
  · exact only_bind (openLong_steady bot price) fun _ => trivial
  · exact only_bind (log_steady _ _) fun _ => trivial

theorem forceFirst_steady : (Live.forceFirst bot price).Only Steady := by
  refine only_bind (only_recover (await_steady trivial) fun _ => trivial) fun balance => ?_
  cases balance with
  | none => trivial
  | some realBal =>
    dsimp only
    split
    · refine only_then trivial fun reading => ?_
      split
      · refine only_bind (advise_steady _ _ _) fun advisory => ?_
        split
        · exact only_bind (log_steady _ _) fun _ => trivial
        · exact forceOpen_steady bot price _
      · exact only_bind (log_steady _ _) fun _ => trivial
    · trivial

theorem heedCaution_steady (advisory : Live.Advisory) :
    (Live.heedCaution bot advisory).Only Steady := by
  refine only_then trivial fun reading => ?_
  split
  · exact only_bind (log_steady _ _) fun _ => await_steady trivial
  · trivial

theorem passAdvisor_steady (reading : BotReading) (capitalUsd : ℚ) :
    (Live.passAdvisor bot reading capitalUsd).Only Steady := by
  refine only_bind (advise_steady _ _ _) fun advisory => ?_
  cases advisory with
  | none => trivial
  | some advisory =>
    show (if ¬ advisory.allow then _ else _ : Live.Call Bool).Only Steady
    split
    · exact only_bind (log_steady _ _) fun _ => trivial
    · split
      · exact only_bind (heedCaution_steady bot advisory) fun _ => trivial
      · trivial

theorem execute_steady (intent : Paper.Intent) : (Live.execute bot price intent).Only Steady := by
  cases intent with
  | buy => exact openLong_steady bot price
  | sell => exact closePosition_steady bot price

theorem tickDecision_steady (capitalUsd : ℚ) (signal : Paper.AISignalResult) :
    (Live.tickDecision bot price capitalUsd signal).Only Steady := by
  refine only_then trivial fun pnls => ?_
  refine only_then trivial fun reading => ?_
  split
  · split
    · exact log_steady _ _
    · trivial
  · unfold Live.carryOut
    split
    · refine only_bind (passAdvisor_steady bot reading capitalUsd) fun passed => ?_
      split
      · exact execute_steady bot price _
      · trivial
    · exact execute_steady bot price _

theorem tickEntry_steady (tickStart : Live.TickStart) :
    (Live.tickEntry bot price tickStart).Only Steady := by
  have due (isFirst : Bool) : (Live.firstIfDue bot price isFirst).Only Steady := by
    unfold Live.firstIfDue
    split
    · exact forceFirst_steady bot price
    · trivial
  cases tickStart with
  | holding =>
    refine only_bind (hardExits_steady bot price) fun ended => ?_
    split
    · trivial
    · exact only_then trivial fun isFirst => due isFirst
  | first => exact due true
  | later => exact due false

theorem stopPosition_steady (found : LiveBot) : (Live.stopPosition bot found).Only Steady := by
  unfold Live.stopPosition
  split
  · refine only_then trivial fun price => ?_
    cases price with
    | none => trivial
    | some price => exact closePosition_steady bot price
  · trivial

end Steady

/-! ### Neutral operations -/

theorem neutral_of_steady {op : Live.Op} (steady : Steady op) (phase : Phase) :
    botLane.Neutral phase op := by
  cases op <;> first | exact steady.elim | exact ⟨trivial, fun _ => rfl⟩

theorem tick_neutral_of_steady {op : Live.Op} (steady : Steady op) :
    botTickLane.Neutral .free op := by
  cases op <;> first | exact steady.elim | exact ⟨trivial, fun _ => rfl⟩

variable {Value : Type} {program : Live.Call Value}

theorem steady_stays (steady : program.Only Steady) (phase : Phase) : botLane.Stays phase program :=
  Follows.neutral (steady.mono fun _ holds => neutral_of_steady holds phase)

theorem tick_steady_stays (steady : program.Only Steady) : botTickLane.Stays .free program :=
  Follows.neutral (steady.mono fun _ holds => tick_neutral_of_steady holds)

variable {phase : Phase}

/-- A live bot goes through the phases among the requests. -/
theorem embed_follows {returns : Value → Phase → Prop} {throws : Phase → Prop}
    (follows : botLane.Follows phase program (ends returns throws)) :
    lane.Follows phase (bots.embed program) (ends returns throws) :=
  Embedding.follows (fun _ _ permitted => permitted) (fun _ _ _ => rfl) follows

/-- Operations of the engine that lead nowhere. -/
def Plain : Op → Prop
  | .findActiveSession => False
  | .createSession _ => False
  | .updateSession _ => False
  | .deleteSession _ => False
  | .createRun _ => False
  | .bot op => Steady op
  | _ => True

theorem stays_plain {op : Op} (plain : Plain op) (phase : Phase) :
    lane.Stays phase (await op) := by
  refine Stays.perform ?_
  cases op with
  | bot op => exact neutral_of_steady plain phase
  | _ => first | exact plain.elim | exact ⟨trivial, fun _ => rfl⟩

/-! ### Ticks -/

theorem emergencyStop_stays (bot : ℕ) (reason : String) :
    botTickLane.Stays .free (Live.emergencyStop bot reason) := by
  have removed : botTickLane.Follows .free (Live.await (.emergencyRemove bot))
      (ends (fun _ reached => reached = .sweeping) fun reached => reached = .free) :=
    Follows.perform trivial (fun _ => rfl) fun _ => rfl
  have persisted : botTickLane.Follows .sweeping (Live.await (.persistStop reason))
      (ends (fun _ reached => reached = .free) fun reached => reached = .free) :=
    Follows.perform trivial (fun _ => rfl) fun _ => rfl
  refine Follows.andThen removed fun _ => Follows.recover persisted ?_
  exact fun _ _ same => same

theorem tickObserved_stays (bot : ℕ) (price : ℚ) (signal : Paper.AISignalResult)
    (observation : Live.Observation) :
    botTickLane.Stays .free (Live.tickObserved bot price signal observation) := by
  have decided (capitalUsd : ℚ) :
      botTickLane.Stays .free (Live.tickDecision bot price capitalUsd signal) :=
    tick_steady_stays (tickDecision_steady bot price capitalUsd signal)
  unfold Live.tickObserved
  split
  · refine Stays.bind (tick_steady_stays (log_steady _ _)) fun _ => ?_
    refine Stays.bind (tick_steady_stays (closeHeld_steady bot price)) fun _ => ?_
    exact emergencyStop_stays bot _
  · exact Stays.bind (tick_steady_stays (log_steady _ _)) fun _ => decided _
  · exact decided _

theorem tick_stays (bot : ℕ) (settings : BotSettings) :
    botTickLane.Stays .free (Live.tick bot settings) := by
  have awaits {op : Live.Op} (steady : Steady op) : botTickLane.Stays .free (Live.await op) :=
    tick_steady_stays (await_steady steady)
  refine Stays.bind (awaits (by trivial)) fun found => ?_
  cases found with
  | none => exact rfl
  | some price =>
    refine Stays.bind (awaits (by trivial)) fun tickStart => ?_
    refine Stays.bind (tick_steady_stays (tickEntry_steady bot price tickStart)) ?_
    intro ended
    split
    · exact rfl
    · refine Stays.bind (awaits (by trivial)) fun found => ?_
      cases found with
      | none => exact rfl
      | some signal =>
        refine Stays.bind (tick_steady_stays (log_steady _ _)) fun _ => ?_
        refine Stays.bind (awaits (by trivial)) fun portfolio => ?_
        refine Stays.bind (awaits (by trivial)) fun observation => ?_
        exact tickObserved_stays bot price signal observation

theorem firstTick_stays (bot : ℕ) : botTickLane.Stays .free (firstTick bot) := by
  refine Stays.bind (tick_steady_stays (await_steady trivial)) fun reading => ?_
  exact Stays.recover (tick_stays bot _) fun _ => rfl

theorem intervalTick_stays (bot : ℕ) : botTickLane.Stays .free (Live.intervalTick bot) := by
  refine Stays.bind (tick_steady_stays (await_steady trivial)) fun fired => ?_
  cases fired with
  | none => exact rfl
  | some settings =>
    have settles : botTickLane.Stays .free (Live.await (.settle bot)) :=
      tick_steady_stays (await_steady trivial)
    refine Follows.finally (Stays.recover (tick_stays bot settings)
      fun _ => rfl) (fun _ _ same => ?_) fun _ same => ?_
    · exact same ▸ settles
    · exact same ▸ settles

/-! ### Starts -/

theorem startBot_follows (settings : BotSettings) (session : ℕ) :
    botLane.Follows (.opened session) (startBot settings)
      (ends (fun _ reached => reached = .launched session) fun reached =>
        reached = .opened session ∨ reached = .launched session) := by
  have awaits {op : Live.Op} (steady : Steady op) :
      botLane.Stays (.opened session) (Live.await op) := steady_stays (await_steady steady) _
  refine Stays.andThen (awaits (by trivial)) (fun running => ?_) (Or.inl rfl)
  refine Follows.throwIf (fun _ => Or.inl rfl) fun _ => ?_
  refine Stays.andThen (awaits (by trivial)) (fun portfolio => ?_) (Or.inl rfl)
  refine Follows.moves (fun _ => .launched session) ⟨session, rfl⟩ (fun _ => rfl)
    (fun _ => Or.inl rfl) fun bot => ?_
  exact Follows.throwing (steady_stays (runLiveStartupProbe_steady bot settings) _)
    fun _ same => Or.inr same

def EndsClear {Value : Type} (phase : Phase) (program : Call Value) : Prop :=
  lane.Follows phase program (ends (fun _ reached => reached.Clear) Phase.Clear)

theorem EndsClear.of_stays {program : Call Value} (stays : lane.Stays phase program)
    (clear : phase.Clear) : EndsClear phase program := by
  refine Follows.mono stays fun result reached same => ?_
  cases result <;> exact Eq.mpr (congrArg Phase.Clear same) clear

variable (maxOrderUsdt : ℚ) (body : StartBody)

theorem startSession_clear (strategy : String) (session : ℕ) (sized : LiveOrderSizeResult) :
    EndsClear (.opened session) (startSession body strategy session sized) := by
  refine Follows.moves (fun _ => .opened session) ⟨session, rfl⟩ (fun _ => rfl)
    (fun _ => Phase.clear_free) fun botRun => ?_
  refine Follows.recover (Follows.andThen
    (embed_follows (startBot_follows _ session)) fun _ => ?_) fun failure reached left => ?_
  · refine Stays.andThen (stays_plain (by trivial) _) (fun _ => ?_) (Or.inr rfl)
    exact Phase.clear_launched session
  · refine Follows.moves (fun _ => .free) left (fun _ => rfl) (fun _ => Phase.clear_free)
      fun _ => EndsClear.of_stays ?_ Phase.clear_free
    exact Stays.bind (stays_plain (by trivial) _) fun _ => rfl

theorem sizeOrder_stays (conn : ExchangeConnection) (phase : Phase) :
    lane.Stays phase (sizeOrder maxOrderUsdt body conn) := by
  have free : lane.Stays phase (freeUsdt conn) :=
    Stays.recover (stays_plain (by trivial) _) fun _ => rfl
  refine Stays.bind free fun realUsdt => ?_
  split
  · exact rfl
  · refine Stays.bind (stays_plain (by trivial) _) fun maxOrderNotional => ?_
    dsimp only
    split <;> exact rfl

theorem preflight_stays (exchangeConnectionId : String) (phase : Phase) :
    lane.Stays phase (preflight maxOrderUsdt body exchangeConnectionId) := by
  refine Stays.bind (stays_plain (by trivial) _) fun signalReadiness => ?_
  refine Stays.bind (stays_plain (by trivial) _) fun now => ?_
  split
  · exact rfl
  · refine Stays.bind (stays_plain (by trivial) _) fun readiness => ?_
    split
    · exact rfl
    · refine Stays.bind (stays_plain (by trivial) _) fun found => ?_
      split
      · exact rfl
      · split
        · exact rfl
        · exact sizeOrder_stays maxOrderUsdt body _ phase

theorem startLive_clear (strategy exchangeConnectionId : String) :
    EndsClear .free (startLive maxOrderUsdt body strategy exchangeConnectionId) := by
  refine Stays.andThen (preflight_stays maxOrderUsdt body _ _) (fun checked => ?_)
    Phase.clear_free
  cases checked with
  | error refusal => exact Phase.clear_free
  | ok sized =>
    exact Follows.moves .opened rfl (fun _ => rfl) (fun _ => Phase.clear_free) fun session =>
      startSession_clear body strategy session sized

theorem findActiveSession_follows : lane.Follows .free (await .findActiveSession)
    (ends (fun (found : Option ℕ) reached => reached = found.elim .free .closing)
      Phase.Clear) := by
  refine Follows.perform rfl (fun found => ?_) fun _ => Phase.clear_free
  cases found <;> exact rfl

theorem start_clear : EndsClear .free (start maxOrderUsdt body) := by
  refine Stays.andThen (stays_plain (by trivial) _) (fun strategy => ?_) Phase.clear_free
  cases strategy with
  | none => exact Phase.clear_free
  | some strategy =>
    refine Follows.bind findActiveSession_follows fun existing reached same => ?_
    rw [same]
    cases existing with
    | some session => exact Phase.clear_closing session
    | none =>
      dsimp only
      split
      · exact Phase.clear_free
      · exact startLive_clear maxOrderUsdt body strategy _

/-! ### Stops -/

/-- What a stop leaves of the session that it has found, when it comes to update it. -/
def Found (session : ℕ) (phase : Phase) : Prop :=
  phase = .closing session ∨ phase = .removed session

theorem liveStop_follows (session : ℕ) :
    botLane.Follows (.closing session) Live.stop (ends (fun _ => Found session) (Found session)) := by
  have awaits {op : Live.Op} (steady : Steady op) :
      botLane.Stays (.closing session) (Live.await op) := steady_stays (await_steady steady) _
  refine Stays.andThen (awaits (by trivial)) (fun cleared => ?_) (Or.inl rfl)
  refine Follows.orThrow (fun _ => Or.inl rfl) fun found _ => ?_
  have stopped : botLane.Follows (.closing session) (Live.stopBot found.1 found.2)
      (ends (fun _ => Found session) (Found session)) := by
    refine Stays.andThen (steady_stays (stopPosition_steady _ _) _) (fun _ => ?_)
      (Or.inl rfl)
    refine Stays.andThen (awaits (by trivial)) (fun started => ?_) (Or.inl rfl)
    have seconds : botLane.Stays (.closing session) (Live.sessionSeconds started) := by
      cases started with
      | none => exact rfl
      | some startedAt => exact Stays.bind (awaits (by trivial)) fun _ => rfl
    refine Stays.andThen seconds (fun _ => ?_) (Or.inl rfl)
    refine Stays.andThen (awaits (by trivial)) (fun _ => ?_) (Or.inl rfl)
    exact Follows.perform ⟨session, rfl⟩ (fun _ => Or.inr rfl) fun _ => Or.inl rfl
  have settles {reached : Phase} (left : Found session reached) :
      botLane.Follows reached (Live.await (.settle found.1))
        (ends (fun _ => Found session) (Found session)) :=
    Follows.perform trivial (fun _ => left) fun _ => left
  exact Follows.finally stopped (fun _ _ => settles) fun _ => settles

theorem stopBot_follows (session : ℕ) :
    lane.Follows (.closing session) stopBot (ends (fun _ => Found session) Phase.Clear) := by
  have tried : lane.Follows (.closing session) (do
      let running ← await (.bot .isRunning)
      if running then bots.embed Live.stop else pure ())
      (ends (fun _ => Found session) (Found session)) := by
    refine Stays.andThen (stays_plain (by trivial) _) (fun running => ?_) (Or.inl rfl)
    split
    · exact embed_follows (liveStop_follows session)
    · exact Or.inl rfl
  exact Follows.recover tried fun _ _ left => left

theorem stop_clear : EndsClear .free stop := by
  refine Follows.bind findActiveSession_follows fun found reached same => ?_
  rw [same]
  cases found with
  | none => exact Phase.clear_free
  | some session =>
    refine Follows.bind (stopBot_follows session) fun _ reached left => ?_
    refine Follows.moves (fun _ => .free) left (fun _ => rfl) (fun _ => Phase.clear_free)
      fun _ => EndsClear.of_stays ?_ Phase.clear_free
    refine Stays.bind (Stays.bind (stays_plain (by trivial) _) fun run => ?_)
      fun _ => rfl
    cases run with
    | none => exact rfl
    | some run => exact Stays.bind (stays_plain (by trivial) _) fun _ => stays_plain (by trivial) _

/-! ### Requests -/

/-- What is said of a request once it has ended. -/
def Settled : Except String (Option Response) → Phase → Prop :=
  @ends engine Phase _ (fun _ reached => reached.Clear) Phase.Clear

/-- A call of a live bot among the requests, of which nothing is answered. -/
def beside (tick : Live.Call Unit) : Call (Option Response) := do
  bots.embed tick
  return none

theorem beside_follows {tick : Live.Call Unit} (stays : botTickLane.Stays .free tick) :
    tickLane.Follows .free (beside tick) Settled := by
  have embedded : tickLane.Stays .free (bots.embed tick) :=
    Embedding.follows (fun _ _ permitted => permitted) (fun _ _ _ => rfl) stays
  exact Stays.andThen embedded (fun _ => Phase.clear_free) Phase.clear_free

def Request.IsTick : Request → Prop
  | start _ => False
  | stop => False
  | firstTick _ => True
  | intervalTick _ => True

theorem tick_follows {request : Request} (isTick : request.IsTick) :
    tickLane.Follows .free (request.call maxOrderUsdt) Settled := by
  cases request with
  | start body => exact isTick.elim
  | stop => exact isTick.elim
  | firstTick bot => exact beside_follows (firstTick_stays bot)
  | intervalTick bot => exact beside_follows (intervalTick_stays bot)

theorem permits_of_ticks {op : Op} (ticks : Ticks phase op) :
    lane.permits phase op := by
  cases op with
  | bot op => cases phase <;> cases op <;> first | exact ticks.elim | exact trivial | exact rfl
  | _ => cases phase <;> exact ticks.elim

theorem lane_of_tickLane {program : Call (Option Response)}
    (follows : tickLane.Follows .free program Settled) : lane.Follows .free program Settled := by
  refine Follows.permitting ?_ (fun phase op => ?_) follows
  · exact rfl
  · exact permits_of_ticks

/-- Every request goes through the phases, and ends owing nothing. -/
theorem request_follows (request : Request) :
    lane.Follows .free (request.call maxOrderUsdt) Settled := by
  cases request with
  | start body =>
    exact Follows.bind (start_clear maxOrderUsdt body) fun _ _ clear => clear
  | stop => exact Follows.bind stop_clear fun _ _ clear => clear
  | firstTick bot => exact lane_of_tickLane (beside_follows (firstTick_stays bot))
  | intervalTick bot => exact lane_of_tickLane (beside_follows (intervalTick_stays bot))

end GdslExchange.Engine
