/-
This file settles when the drawdown halt of a paper bot is exact. A session peak
starts at the portfolio's value plus its profit and is compared with the value
alone, which contains the profit already. The halt is exact in the runs in which
both starts judge every observed value alike, as they do where the profit is zero.
-/

import GdslExchange.Numeric.HighWater
import GdslExchange.Paper.Bot

namespace GdslExchange.Paper

open Async
open Numeric

/-! ### The property -/

/-- The equity that a tick observes for a bot. -/
def observation (bot : ℕ) : Event paper → Option ℚ
  | ⟨_, .observe other currentEquity, _, .ok _⟩ => if other = bot then some currentEquity else none
  | _ => none

/-- What has been observed for a bot, the latest first. -/
def observed (bot : ℕ) (log : List (Event paper)) : List ℚ := log.filterMap (observation bot)

def installation (bot : ℕ) : Event paper → Option Portfolio
  | ⟨_, .installBot _ portfolio, _, .ok installed⟩ =>
    if installed = bot then some portfolio else none
  | _ => none

def startedWith (bot : ℕ) (log : List (Event paper)) : Option Portfolio :=
  log.findSome? (installation bot)

/-- Some value has fallen too far below the highest of the start and the values before it. -/
def FellTooFar (start : ℚ) : List ℚ → Prop
  | [] => False
  | value :: earlier =>
    checkDrawdownExceeded value (highWater start earlier) = true ∨ FellTooFar start earlier

instance decidableFellTooFar (start : ℚ) : (values : List ℚ) → Decidable (FellTooFar start values)
  | [] => isFalse not_false
  | _ :: earlier =>
    have : Decidable (FellTooFar start earlier) := decidableFellTooFar start earlier
    inferInstanceAs (Decidable (_ ∨ _))

/-- Every bot is halted exactly when some equity of its session has fallen too far below the
highest before it, the start included. -/
def HaltExact (moment : Moment paper) : Prop :=
  ∀ bot found portfolio, moment.state.bots[bot]? = some found →
    startedWith bot moment.log = some portfolio →
    (found.drawdownHalted = true ↔ FellTooFar portfolio.totalValue (observed bot moment.log))

/-- An observation before which neither start would have halted the bot is judged alike from the
value of the portfolio and from its value and profit together. -/
def JudgedAlike (step : Step paper) : Prop :=
  ∀ bot currentEquity portfolio, step.op = .observe bot currentEquity →
    startedWith bot step.before.log = some portfolio →
    let earlier := observed bot step.before.log
    let withPnl := portfolio.totalValue + portfolio.pnl
    ¬ FellTooFar portfolio.totalValue earlier → ¬ FellTooFar withPnl earlier →
    checkDrawdownExceeded currentEquity (highWater portfolio.totalValue earlier) =
      checkDrawdownExceeded currentEquity (highWater withPnl earlier)

/-! ### What a step does to a session -/

/-- The part of a bot that the drawdown check reads and writes. -/
structure Session where
  peak : ℚ
  halted : Bool

def BotInstance.session (bot : BotInstance) : Session := ⟨bot.sessionPeakEquity, bot.drawdownHalted⟩

def Desk.sessions (desk : Desk) : List Session := desk.bots.map BotInstance.session

theorem sessions_onBot {desk : Desk} {bot : ℕ} {change : BotInstance → BotInstance}
    (same : ∀ found, (change found).session = found.session) :
    (desk.onBot bot change).sessions = desk.sessions := by
  unfold Desk.sessions Desk.onBot
  refine List.ext_getElem? fun other => ?_
  rw [List.getElem?_map, List.getElem?_map, List.getElem?_modify]
  cases desk.bots[other]? with
  | none => rfl
  | some found =>
    refine congrArg some ?_
    split
    · exact same found
    · rfl

theorem sessions_withBot {Answer : Type} {desk : Desk} {bot : ℕ}
    {change : BotInstance → BotInstance} {answer : BotInstance → Answer}
    (same : ∀ found, (change found).session = found.session) :
    (withBot desk bot change answer).1.sessions = desk.sessions := by
  unfold withBot
  split
  · exact sessions_onBot same
  · rfl

/-- Every operation but an installation and an observation. -/
def Quiet : Op → Prop
  | .installBot _ _ => False
  | .observe _ _ => False
  | _ => True

theorem sessions_of_quiet {op : Op} (quiet : Quiet op) (fate : Fate op) (desk : Desk) :
    (perform op fate desk).1.sessions = desk.sessions := by
  cases op with
  | installBot settings portfolio => exact quiet.elim
  | observe bot currentEquity => exact quiet.elim
  | clearTimer =>
    show (desk.running.elim desk fun bot => desk.onBot bot _).sessions = desk.sessions
    cases desk.running with
    | none => rfl
    | some bot => exact sessions_onBot fun _ => rfl
  | fire bot => exact sessions_withBot fun _ => rfl
  | readBot bot => exact sessions_withBot fun _ => rfl
  | stampExecution bot => exact sessions_withBot fun _ => rfl
  | createPortfolio =>
    dsimp only [perform]
    split
    · rfl
    · exact Delivery.write_same rfl
  | creditPortfolio trade pnl =>
    dsimp only [perform]
    split
    · exact Delivery.write_same rfl
    · rfl
  | moveFunds amount =>
    dsimp only [perform]
    split <;> rfl
  | createTrade opening data => exact Delivery.write_same rfl
  | closeTrade trade exitPrice pnl =>
    dsimp only [perform]
    split
    · exact Delivery.write_same rfl
    · rfl
  | _ => rfl

theorem observation_of_quiet {event : Event paper} (quiet : Quiet event.op) (bot : ℕ) :
    observation bot event = none := by
  obtain ⟨caller, op, fate, reply⟩ := event
  cases op with
  | observe other currentEquity => exact quiet.elim
  | _ => rfl

theorem installation_of_quiet {event : Event paper} (quiet : Quiet event.op) (bot : ℕ) :
    installation bot event = none := by
  obtain ⟨caller, op, fate, reply⟩ := event
  cases op with
  | installBot settings portfolio => exact quiet.elim
  | _ => rfl

/-- A session after an observation. -/
def Session.observe (session : Session) (currentEquity : ℚ) : Session :=
  let peak := max session.peak currentEquity
  ⟨peak, session.halted || checkDrawdownExceeded currentEquity peak⟩

theorem sessions_onBot_observed (desk : Desk) (bot : ℕ) (currentEquity : ℚ) :
    (desk.onBot bot (·.observed currentEquity)).sessions =
      desk.sessions.modify bot (·.observe currentEquity) := by
  unfold Desk.sessions Desk.onBot
  refine List.ext_getElem? fun other => ?_
  rw [List.getElem?_map, List.getElem?_modify, List.getElem?_modify, List.getElem?_map]
  cases desk.bots[other]? with
  | none => rfl
  | some found =>
    refine congrArg some ?_
    split <;> rfl

theorem sessions_observe (desk : Desk) (bot : ℕ) (currentEquity : ℚ) :
    (perform (.observe bot currentEquity) () desk).1.sessions =
      desk.sessions.modify bot (·.observe currentEquity) := by
  rw [← sessions_onBot_observed]
  dsimp only [perform, withBot]
  split
  · rfl
  · next missing =>
    unfold Desk.onBot
    rw [List.modify_eq_self (List.getElem?_eq_none_iff.mp missing)]

theorem observation_observe (before : Moment paper) (caller bot : ℕ) (currentEquity : ℚ)
    (other : ℕ) :
    observation other (Step.mk before caller (.observe bot currentEquity) ()).event =
      if bot = other ∧ bot < before.state.sessions.length then some currentEquity else none := by
  have answered : (Step.mk before caller (.observe bot currentEquity) ()).reply =
      (withBot before.state bot (·.observed currentEquity) fun found =>
        !found.drawdownHalted && (found.observed currentEquity).drawdownHalted).2 := rfl
  unfold Step.event Desk.sessions
  rw [answered, List.length_map]
  unfold withBot
  split
  · next held =>
    rw [if_congr (and_iff_left (List.getElem?_eq_some_iff.mp held).1) rfl rfl]
    rfl
  · next missing =>
    rw [if_neg fun both => absurd both.2 (List.getElem?_eq_none_iff.mp missing).not_gt]
    rfl

/-! ### What a session knows -/

/-- The session is what a start and the values observed since make of it. -/
structure Session.Tracks (session : Session) (start : ℚ) (values : List ℚ) : Prop where
  peak : session.peak = highWater start values
  halted : session.halted = true ↔ FellTooFar start values

theorem Session.Tracks.observe {session : Session} {start : ℚ} {values : List ℚ}
    (tracks : session.Tracks start values) (currentEquity : ℚ) :
    (session.observe currentEquity).Tracks start (currentEquity :: values) where
  peak := by
    rw [highWater_cons, ← tracks.peak]
    rfl
  halted := by
    unfold Session.observe FellTooFar
    rw [Bool.or_eq_true, checkDrawdownExceeded_max, tracks.peak, tracks.halted, or_comm]

/-- Every bot has been started with a portfolio, and its session is what the value and the profit
of that portfolio and the values observed since make of it. -/
structure Recorded (moment : Moment paper) : Prop where
  sessions : ∀ bot session, moment.state.sessions[bot]? = some session →
    ∃ portfolio, startedWith bot moment.log = some portfolio ∧
      session.Tracks (portfolio.totalValue + portfolio.pnl) (observed bot moment.log)
  fresh : ∀ bot, moment.state.sessions.length ≤ bot →
    startedWith bot moment.log = none ∧ observed bot moment.log = []

section Steps

variable {step : Step paper} (recorded : Recorded step.before)

theorem observed_of_silent {bot : ℕ} (silent : observation bot step.event = none) :
    observed bot step.after.log = observed bot step.before.log := List.filterMap_cons_none silent

theorem observed_of_observation {bot : ℕ} {currentEquity : ℚ}
    (observes : observation bot step.event = some currentEquity) :
    observed bot step.after.log = currentEquity :: observed bot step.before.log :=
  List.filterMap_cons_some observes

theorem startedWith_of_silent {bot : ℕ} (silent : installation bot step.event = none) :
    startedWith bot step.after.log = startedWith bot step.before.log := by
  show (step.event :: step.before.log).findSome? (installation bot) = _
  rw [List.findSome?_cons, silent]
  rfl

theorem startedWith_of_installation {bot : ℕ} {portfolio : Portfolio}
    (installs : installation bot step.event = some portfolio) :
    startedWith bot step.after.log = some portfolio := by
  show (step.event :: step.before.log).findSome? (installation bot) = _
  rw [List.findSome?_cons, installs]

include recorded

theorem recorded_of_quiet (quiet : Quiet step.op) : Recorded step.after := by
  have same : step.after.state.sessions = step.before.state.sessions :=
    sessions_of_quiet quiet step.fate step.before.state
  have observedSame : ∀ bot, observed bot step.after.log = observed bot step.before.log :=
    fun bot => observed_of_silent (observation_of_quiet quiet bot)
  refine ⟨fun bot session found => ?_, fun bot beyond => ?_⟩
  · rw [same] at found
    rw [observedSame, startedWith_of_silent (installation_of_quiet quiet bot)]
    exact recorded.sessions bot session found
  · rw [same] at beyond
    rw [observedSame, startedWith_of_silent (installation_of_quiet quiet bot)]
    exact recorded.fresh bot beyond

end Steps

theorem recorded_install {before : Moment paper} (recorded : Recorded before) (caller : ℕ)
    (settings : BotSettings) (portfolio : Portfolio) :
    Recorded (Step.mk before caller (.installBot settings portfolio) ()).after := by
  set step : Step paper := ⟨before, caller, .installBot settings portfolio, ()⟩ with stepIs
  have grown : step.after.state.sessions = before.state.sessions ++
      [(newBot settings portfolio).session] := List.map_append
  have isNew : before.state.bots.length = before.state.sessions.length := (List.length_map _).symm
  have observedSame : ∀ bot, observed bot step.after.log = observed bot before.log :=
    fun bot => observed_of_silent rfl
  have others : ∀ bot, bot ≠ before.state.sessions.length →
      startedWith bot step.after.log = startedWith bot before.log := by
    intro bot different
    exact startedWith_of_silent (if_neg (show before.state.bots.length ≠ bot by omega))
  refine ⟨fun bot session found => ?_, fun bot beyond => ?_⟩
  · rw [grown] at found
    rw [observedSame]
    obtain old | new := lt_or_ge bot before.state.sessions.length
    · rw [List.getElem?_append_left old] at found
      rw [others bot (by omega)]
      exact recorded.sessions bot session found
    · rw [List.getElem?_append_right new, List.getElem?_singleton] at found
      split at found
      · next first =>
        cases found
        have itself : installation bot step.event = some portfolio :=
          if_pos (show before.state.bots.length = bot by omega)
        refine ⟨portfolio, startedWith_of_installation itself, ?_⟩
        rw [(recorded.fresh bot new).2]
        exact ⟨rfl, fun never => (Bool.false_ne_true never).elim, False.elim⟩
      · cases found
  · rw [grown, List.length_append, List.length_singleton] at beyond
    rw [observedSame, others bot (by omega)]
    exact recorded.fresh bot (by omega)

theorem recorded_observe {before : Moment paper} (recorded : Recorded before) (caller bot : ℕ)
    (currentEquity : ℚ) :
    Recorded (Step.mk before caller (.observe bot currentEquity) ()).after := by
  set step : Step paper := ⟨before, caller, .observe bot currentEquity, ()⟩ with stepIs
  have state : step.after.state.sessions =
      before.state.sessions.modify bot (·.observe currentEquity) :=
    sessions_observe before.state bot currentEquity
  have told := observation_observe before caller bot currentEquity
  have notInstalled : ∀ other, startedWith other step.after.log = startedWith other before.log :=
    fun other => startedWith_of_silent rfl
  refine ⟨fun other session found => ?_, fun other beyond => ?_⟩
  · rw [state, List.getElem?_modify] at found
    obtain ⟨old, foundOld, rfl⟩ := Option.map_eq_some_iff.mp found
    obtain ⟨portfolio, started, tracks⟩ := recorded.sessions other old foundOld
    refine ⟨portfolio, (notInstalled other).trans started, ?_⟩
    by_cases same : bot = other
    · have held : bot < before.state.sessions.length :=
        same ▸ (List.getElem?_eq_some_iff.mp foundOld).1
      rw [observed_of_observation ((told other).trans (if_pos ⟨same, held⟩)), if_pos same]
      exact tracks.observe currentEquity
    · rw [observed_of_silent ((told other).trans (if_neg fun both => same both.1)), if_neg same]
      exact tracks
  · rw [state, List.length_modify] at beyond
    rw [observed_of_silent ((told other).trans (if_neg (by omega))), notInstalled]
    exact recorded.fresh other beyond

/-- Every operation keeps the record of the sessions. -/
theorem recorded_after (step : Step paper) (recorded : Recorded step.before) :
    Recorded step.after := by
  obtain ⟨before, caller, op, fate⟩ := step
  cases op with
  | installBot settings portfolio => exact recorded_install recorded caller settings portfolio
  | observe bot currentEquity => exact recorded_observe recorded caller bot currentEquity
  | _ => exact recorded_of_quiet recorded trivial

/-! ### Exactness -/

theorem haltExact_iff {moment : Moment paper} (recorded : Recorded moment) :
    HaltExact moment ↔ ∀ bot portfolio, startedWith bot moment.log = some portfolio →
      (FellTooFar (portfolio.totalValue + portfolio.pnl) (observed bot moment.log) ↔
        FellTooFar portfolio.totalValue (observed bot moment.log)) := by
  constructor
  · intro isExact bot portfolio started
    cases held : moment.state.sessions[bot]? with
    | none =>
      rw [(recorded.fresh bot (List.getElem?_eq_none_iff.mp held)).1] at started
      cases started
    | some session =>
      obtain ⟨other, startedOther, tracks⟩ := recorded.sessions bot session held
      rw [started] at startedOther
      cases startedOther
      unfold Desk.sessions at held
      rw [List.getElem?_map] at held
      obtain ⟨found, foundAt, rfl⟩ := Option.map_eq_some_iff.mp held
      exact tracks.halted.symm.trans (isExact bot found portfolio foundAt started)
  · intro alike bot found portfolio foundAt started
    have held : moment.state.sessions[bot]? = some found.session := by
      unfold Desk.sessions
      rw [List.getElem?_map, foundAt]
      rfl
    obtain ⟨other, startedOther, tracks⟩ := recorded.sessions bot found.session held
    rw [started] at startedOther
    cases startedOther
    exact tracks.halted.trans (alike bot portfolio started)

/-- A step installs a bot, of which nothing has been observed, or adds at most one observation to
what is known of it. -/
theorem history_after {step : Step paper} (recorded : Recorded step.before) {bot : ℕ}
    {portfolio : Portfolio} (started : startedWith bot step.after.log = some portfolio) :
    observed bot step.after.log = [] ∨
      startedWith bot step.before.log = some portfolio ∧
        (observed bot step.after.log = observed bot step.before.log ∨
          ∃ currentEquity, step.op = .observe bot currentEquity ∧
            observed bot step.after.log = currentEquity :: observed bot step.before.log) := by
  obtain ⟨before, caller, op, fate⟩ := step
  cases op with
  | installBot settings installed =>
    by_cases new : before.state.bots.length = bot
    · left
      rw [observed_of_silent rfl]
      refine (recorded.fresh bot ?_).2
      unfold Desk.sessions
      rw [List.length_map, new]
    · have silent : installation bot
          (Step.mk before caller (.installBot settings installed) fate).event = none := if_neg new
      rw [startedWith_of_silent silent] at started
      exact Or.inr ⟨started, Or.inl (observed_of_silent rfl)⟩
  | observe other currentEquity =>
    rw [startedWith_of_silent rfl] at started
    refine Or.inr ⟨started, ?_⟩
    have told := observation_observe before caller other currentEquity bot
    split at told
    · next reaches =>
      obtain ⟨rfl, -⟩ := reaches
      exact Or.inr ⟨currentEquity, rfl, observed_of_observation told⟩
    · exact Or.inl (observed_of_silent told)
  | _ =>
    rw [startedWith_of_silent rfl] at started
    exact Or.inr ⟨started, Or.inl (observed_of_silent rfl)⟩

theorem haltExact_after {step : Step paper} (recorded : Recorded step.before)
    (isExact : HaltExact step.before) (judged : JudgedAlike step) : HaltExact step.after := by
  rw [haltExact_iff (recorded_after step recorded)]
  intro bot portfolio started
  have earlier := (haltExact_iff recorded).mp isExact bot portfolio
  obtain installed | ⟨startedBefore, unchanged | ⟨currentEquity, isOp, observes⟩⟩ :=
    history_after recorded started
  · rw [installed]
    exact Iff.rfl
  · rw [unchanged]
    exact earlier startedBefore
  · rw [observes]
    unfold FellTooFar
    by_cases fell : FellTooFar portfolio.totalValue (observed bot step.before.log)
    · exact iff_of_true (Or.inr ((earlier startedBefore).mpr fell)) (Or.inr fell)
    · rw [judged bot currentEquity portfolio isOp startedBefore fell
        (fell ∘ (earlier startedBefore).mp), earlier startedBefore]

theorem judgedAlike_of_haltExact {step : Step paper} (recorded : Recorded step.before)
    (isExact : HaltExact step.after) : JudgedAlike step := by
  have alike := (haltExact_iff (recorded_after step recorded)).mp isExact
  obtain ⟨before, caller, op, fate⟩ := step
  rintro bot currentEquity portfolio ⟨⟩ started earlier withPnl notFallen notFallenWithPnl
  have held : bot < before.state.sessions.length := by
    by_contra beyond
    rw [(recorded.fresh bot (not_lt.mp beyond)).1] at started
    cases started
  have told := observation_observe before caller bot currentEquity bot
  rw [if_pos ⟨rfl, held⟩] at told
  have fell := alike bot portfolio ((startedWith_of_silent rfl).trans started)
  rw [observed_of_observation told] at fell
  unfold FellTooFar at fell
  rw [or_iff_left notFallen, or_iff_left notFallenWithPnl] at fell
  exact (Bool.eq_iff_iff.mpr fell).symm

/-! ### Every run -/

/-- In a run of the paper bot the halt is exact after every step if and only if every observation
that could be the first to halt is judged alike from the value of the portfolio at the start and
from its value and profit together. -/
theorem haltExact_iff_judgedAlike (config : PaperConfig) (trades : List PaperTrade)
    (portfolio : Option Portfolio) (requests : List Request) (turns : List (Turn paper)) :
    (∀ step ∈ (paperSystem config trades portfolio requests).steps turns, HaltExact step.after) ↔
      ∀ step ∈ (paperSystem config trades portfolio requests).steps turns, JudgedAlike step := by
  have start : Recorded (paperSystem config trades portfolio requests).moment :=
    ⟨fun bot session found => (by cases found), fun bot _ => ⟨rfl, rfl⟩⟩
  constructor
  · intro isExact
    refine (System.run_keeps (fun step recorded halts => ?_) start turns isExact).2
    exact ⟨judgedAlike_of_haltExact recorded halts, recorded_after step recorded⟩
  · intro judged
    have exactAtStart : HaltExact (paperSystem config trades portfolio requests).moment :=
      fun bot found portfolio foundAt _ => by cases foundAt
    refine (@System.run_keeps paper Unit (fun moment => Recorded moment ∧ HaltExact moment) _ _
      (fun step holds alike => ?_) _ ⟨start, exactAtStart⟩ turns judged).2
    have halts := haltExact_after holds.1 holds.2 alike
    exact ⟨halts, recorded_after step holds.1, halts⟩

/-- A session that starts without a profit or a loss is judged alike. -/
theorem judgedAlike_of_noPnl {step : Step paper}
    (noPnl : ∀ bot portfolio, startedWith bot step.before.log = some portfolio →
      portfolio.pnl = 0) : JudgedAlike step := by
  intro bot currentEquity portfolio _ started earlier withPnl _ _
  have same : withPnl = portfolio.totalValue := by
    show portfolio.totalValue + portfolio.pnl = _
    rw [noPnl bot portfolio started, add_zero]
  rw [same]

section Example

private theorem firstTick_price : (0 : ℚ) < 100 := by
  norm_num

/-- A start, a probe that finds no price, and a tick that observes the portfolio. -/
private def firstTick : List (Step paper) :=
  (paperSystem .default [] (some ⟨100, 50⟩) [.start ⟨"SOL/USDT", none, []⟩]).steps
    (List.replicate 6 ⟨0, answering none none 0⟩ ++
      List.replicate 4 ⟨0, answering none (some ⟨100, 100, firstTick_price, firstTick_price⟩) 0⟩)

/-- A portfolio of 100 with a profit of 50 is halted by its first tick, though its value has never
fallen. -/
theorem not_haltExact : ¬ ∀ (config : PaperConfig) (trades : List PaperTrade)
    (portfolio : Option Portfolio) (requests : List Request) (turns : List (Turn paper)),
    ∀ step ∈ (paperSystem config trades portfolio requests).steps turns,
      HaltExact step.after := by
  intro isExact
  have halts := isExact _ _ _ _ _ (firstTick.get ⟨9, by decide +kernel⟩) (List.get_mem _ _) 0
    ⟨⟨["SOL/USDT"], "SOL/USDT", 50, by norm_num, by norm_num⟩, 150, true, none, true⟩ ⟨100, 50⟩
  revert halts
  decide +kernel

end Example

end GdslExchange.Paper
