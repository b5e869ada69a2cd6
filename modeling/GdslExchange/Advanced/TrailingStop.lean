/-
This file settles when the trailing stop of the advanced bot protects the gain of a position: when
it is ended at the first close that has come one and a half ranges down from the highest.

A tick raises the trail and compares the price with it only while the price is more than one range
above the entry. Below that the trail is not looked at, and two ranges above the entry the
take-profit has ended the position already: as long as the ranges stay above four fifths of the
range of the entry, the trail never ends a position.
-/

import GdslExchange.Advanced.Profit
import GdslExchange.Async.Trace
import GdslExchange.Numeric.HighWater

namespace GdslExchange.Advanced

open Async Async.Program
open Numeric
open Paper (PaperConfig)

/-! ### What a tick reads -/

section Readings

variable (symbol : String) (fates : Fates)

/-- The close of the last bar. -/
def closeRead : Option ℚ :=
  ((fates (.getRecent symbol .oneMinute 1)).toOption.bind List.head?).map Bar.close

def hourlyRead : Option (List Bar) := (fates (.getRecent symbol .oneHour 30)).toOption

/-- The average range, where there are bars enough. -/
def rangeRead : Option ℚ :=
  (hourlyRead symbol fates).bind fun bars =>
    if 15 ≤ bars.length then some (lastAtr 14 bars) else none

/-- The level that a tick raises the trail to. -/
def levelRead (entryPrice : ℚ) : Option ℚ :=
  (closeRead symbol fates).bind fun close => (rangeRead symbol fates).bind fun range =>
    if entryPrice + range < close then some (close - 3 / 2 * range) else none

end Readings

namespace Bot

variable (bot : Bot) (fates : Fates)

/-- The exits end the position at a close. -/
def HitBy (close range : ℚ) : Prop :=
  close ≤ bot.stopPrice ∨ (bot.takeProfitPrice ≤ close ∧ 0 < bot.takeProfitPrice) ∨
    (bot.entryPrice + range < close ∧ close ≤ max bot.trailingStop (close - 3 / 2 * range))

/-- The meta-policy comes to be asked, and decides to sell. -/
def Sells (close : ℚ) : Prop :=
  (hourlyRead bot.config.symbol fates).isSome = true ∧
    ∃ size, fates (.decide (bot.situation close)) = .ok ⟨.sell, size⟩

/-- A tick ends the position. -/
def Exits : Prop :=
  ∃ close ∈ closeRead bot.config.symbol fates,
    (∃ range ∈ rangeRead bot.config.symbol fates, bot.HitBy close range) ∨ bot.Sells fates close

/-- The bot after some ticks that have not ended its position, and have left a trail. -/
def trailing (level : ℚ) (bars : ℕ) : Bot :=
  { bot with trailingStop := level, barsInPosition := bars }

/-- The trail after a close that has not ended the position, where a range is known or not. -/
def trailAfter (close : ℚ) : Option ℚ → ℚ
  | some range =>
    if bot.entryPrice + range < close then max bot.trailingStop (close - 3 / 2 * range)
    else bot.trailingStop
  | none => bot.trailingStop

end Bot

/-! ### Calls that end a position -/

/-- Closing a position, and nothing else, looks for its row or closes it. -/
def Op.closes : Op → Bool
  | .findOpenTrade _ _ => true
  | .closeTrade _ _ _ => true
  | _ => false

section Calls

variable {paper : PaperConfig} {fates : Fates} {desk : Desk} {bot trade : ℕ} {found : Bot}

theorem closePosition_ends (config : Config) (markPrice : ℚ)
    (isBot : desk.bots[bot]? = some found) (isTrade : found.currentTradeId = some trade) :
    (closePosition paper bot config markPrice).Has fates Op.closes desk := by
  refine has_bind_ok (exec_readBot isBot) ?_
  rw [isTrade]
  cases config.mode with
  | paper =>
    have booked : (await (.fetchBookTicker config.symbol)).exec fates desk =
        (desk, .ok (fates (.fetchBookTicker config.symbol))) := exec_await _
    refine has_bind_ok booked (has_bind_ok (exec_readBot isBot) (has_bind ?_))
    exact has_bind (has_perform rfl)
  | live => exact has_bind (has_perform rfl)

/-- Memory has a bot after some ticks that have not ended its position. -/
def Keeps (bot : ℕ) (found : Bot) (level : ℚ) (desk : Desk) : Prop :=
  ∃ bars, desk.bots[bot]? = some (found.trailing level bars)

section Long

variable {close range : ℚ} (isBot : desk.bots[bot]? = some found)
include isBot

theorem passes_readBot :
    (await (.readBot bot)).Passes fates Op.closes desk desk found :=
  ⟨exec_readBot isBot, not_has_perform rfl⟩

theorem passes_raiseTrail (level : ℚ) :
    (await (.raiseTrail bot level)).Passes fates Op.closes desk
      (desk.onBot bot (Bot.trailed · level)) (max found.trailingStop level) :=
  passes_perform rfl (withBot_of_some isBot _ _)

theorem trailingExit_ends (isTrade : found.currentTradeId = some trade)
    (hit : found.entryPrice + range < close ∧
      close ≤ max found.trailingStop (close - 3 / 2 * range)) :
    (trailingExit paper bot found.config close range found.entryPrice).Has fates Op.closes
      desk := by
  unfold trailingExit
  rw [if_pos hit.1]
  refine has_bind_ok (passes_raiseTrail isBot _).1 ?_
  rw [if_pos hit.2]
  exact has_bind (closePosition_ends _ _ (onBot_self isBot _) isTrade)

theorem trailingExit_holds (missed : ¬ (found.entryPrice + range < close ∧
      close ≤ max found.trailingStop (close - 3 / 2 * range))) : ∃ reached,
    (trailingExit paper bot found.config close range found.entryPrice).Passes fates Op.closes desk
        reached false ∧
      reached.bots[bot]? =
        some (found.trailing (found.trailAfter close (some range)) found.barsInPosition) := by
  unfold trailingExit Bot.trailAfter
  by_cases armed : found.entryPrice + range < close
  · have above : ¬ close ≤ max found.trailingStop (close - 3 / 2 * range) :=
      fun below => missed ⟨armed, below⟩
    simp only [gt_iff_lt, if_pos armed]
    refine ⟨_, (passes_raiseTrail isBot _).bind ?_,
      onBot_self isBot (Bot.trailed · (close - 3 / 2 * range))⟩
    rw [if_neg above]
    exact passes_done
  · simp only [gt_iff_lt, if_neg armed]
    exact ⟨desk, passes_done, isBot⟩

variable {bars : List Bar} (hourly : fates (.getRecent found.config.symbol .oneHour 30) = .ok bars)

omit isBot in
theorem passes_getRecent {symbol : String} {interval : Market.Interval} {limit : ℕ}
    (answered : fates (.getRecent symbol interval limit) = .ok bars) :
    (await (.getRecent symbol interval limit)).Passes fates Op.closes desk desk bars :=
  passes_perform rfl (congrArg (Prod.mk desk) answered)

include hourly

theorem exitsIfLong_ends (isLong : found.position = .long)
    (isTrade : found.currentTradeId = some trade) (enough : 15 ≤ bars.length)
    (hit : found.HitBy close (lastAtr 14 bars)) :
    (exitsIfLong paper bot found.config close).Has fates Op.closes desk := by
  have closes : ((closePosition paper bot found.config close >>= fun _ => pure true) :
      Call Bool).Has fates Op.closes desk := has_bind (closePosition_ends _ _ isBot isTrade)
  refine has_bind_ok (exec_readBot isBot) ?_
  rw [if_pos isLong]
  refine has_bind_ok (passes_getRecent hourly).1 ?_
  rw [if_pos enough]
  refine has_bind_ok (exec_readBot isBot) ?_
  by_cases stopped : close ≤ found.stopPrice
  · rw [if_pos stopped]
    exact closes
  · rw [if_neg stopped]
    by_cases taken : close ≥ found.takeProfitPrice ∧ found.takeProfitPrice > 0
    · rw [if_pos taken]
      exact closes
    · rw [if_neg taken]
      exact trailingExit_ends isBot isTrade ((hit.resolve_left stopped).resolve_left taken)

theorem exitsIfLong_holds (isLong : found.position = .long)
    (missed : ∀ range ∈ rangeRead found.config.symbol fates, ¬ found.HitBy close range) :
    ∃ reached,
      (exitsIfLong paper bot found.config close).Passes fates Op.closes desk reached false ∧
      reached.bots[bot]? = some (found.trailing
        (found.trailAfter close (rangeRead found.config.symbol fates)) found.barsInPosition) := by
  have range : rangeRead found.config.symbol fates =
      if 15 ≤ bars.length then some (lastAtr 14 bars) else none := by
    unfold rangeRead hourlyRead
    rw [hourly]
    rfl
  rw [range] at missed ⊢
  suffices exits : ∃ reached,
      (hardExits paper bot found.config close).Passes fates Op.closes desk reached false ∧
      reached.bots[bot]? = some (found.trailing (found.trailAfter close
        (if 15 ≤ bars.length then some (lastAtr 14 bars) else none)) found.barsInPosition) by
    obtain ⟨reached, passes, isLater⟩ := exits
    refine ⟨reached, (passes_readBot isBot).bind ?_, isLater⟩
    rwa [if_pos isLong]
  by_cases enough : 15 ≤ bars.length
  · rw [if_pos enough] at missed ⊢
    obtain ⟨notStopped, later⟩ := not_or.mp (missed _ rfl)
    obtain ⟨notTaken, notTrailed⟩ := not_or.mp later
    obtain ⟨reached, passes, isLater⟩ :=
      @trailingExit_holds paper fates desk bot found close _ isBot notTrailed
    refine ⟨reached, (passes_getRecent hourly).bind ?_, isLater⟩
    rw [if_pos enough]
    refine (passes_readBot isBot).bind ?_
    rwa [if_neg notStopped, if_neg notTaken]
  · rw [if_neg enough]
    refine ⟨desk, (passes_getRecent hourly).bind ?_, isBot⟩
    rw [if_neg enough]
    exact passes_done

omit hourly

section

variable (isLong : found.position = .long) (isTrade : found.currentTradeId = some trade)
include isLong isTrade

theorem counting_hasWhen {sells : Prop} {decision : MetaDecision}
    (decides : sells ↔ decision.action = .sell) :
    (execute paper bot found.config close decision found.position >>= fun _ =>
      await (.countBar bot)).HasWhen fates Op.closes desk sells
        (Keeps bot found found.trailingStop) := by
  by_cases isSell : decision.action = .sell
  · refine hasWhen_of_has (decides.mpr isSell) (has_bind ?_)
    have closes : execute paper bot found.config close decision found.position =
        closePosition paper bot found.config close := by
      unfold execute
      rw [if_neg (by simp [isSell]), if_pos ⟨isSell, isLong⟩]
    rw [closes]
    exact closePosition_ends _ _ isBot isTrade
  · have idles : execute paper bot found.config close decision found.position = pure () := by
      unfold execute
      rw [if_neg (by simp [isLong]), if_neg (not_and_of_not_left _ isSell)]
    rw [idles]
    refine passes_done.hasWhen_bind ⟨fun sold => absurd (decides.mp sold) isSell, fun _ => ?_⟩
    refine ⟨not_has_perform rfl, found.barsInPosition + 1, ?_⟩
    rw [exec_await, perform, withBot_of_some isBot]
    refine (onBot_self isBot Bot.counted).trans (congrArg some ?_)
    unfold Bot.counted
    rw [if_pos isLong]
    rfl

/-- Past the exits, a position is ended if the meta-policy decides to sell. -/
theorem tickDecision_hasWhen :
    (tickDecision paper bot found.config close).HasWhen fates Op.closes desk
      (∃ size, fates (.decide (found.situation close)) = .ok ⟨.sell, size⟩)
      (Keeps bot found found.trailingStop) := by
  refine (passes_readBot isBot).hasWhen_bind ?_
  cases decided : fates (.decide (found.situation close)) with
  | error failure =>
    have thrown : (await (.decide (found.situation close))).exec fates desk =
        (desk, .error failure) := (exec_await _).trans (congrArg (Prod.mk desk) decided)
    refine hasWhen_bind_error thrown (not_has_perform rfl) ?_ ⟨found.barsInPosition, isBot⟩
    rintro ⟨size, sells⟩
    cases sells
  | ok decision =>
    have asked : (await (.decide (found.situation close))).Passes fates Op.closes desk desk
        decision := passes_perform rfl (congrArg (Prod.mk desk) decided)
    refine asked.hasWhen_bind ((passes_readBot isBot).hasWhen_bind ?_)
    refine counting_hasWhen isBot isLong isTrade ?_
    constructor
    · rintro ⟨size, sells⟩
      rw [Except.ok.inj sells]
    · intro isSell
      obtain ⟨action, size⟩ := decision
      exact ⟨size, congrArg (fun action => Except.ok (MetaDecision.mk action size)) isSell⟩

theorem close_hasWhen :
    (exitsIfLong paper bot found.config close >>= fun ended =>
      if ended then pure () else tickDecision paper bot found.config close).HasWhen fates Op.closes
        desk
        ((∃ range ∈ rangeRead found.config.symbol fates, found.HitBy close range) ∨
          found.Sells fates close)
        (Keeps bot found (found.trailAfter close (rangeRead found.config.symbol fates))) := by
  unfold Bot.Sells
  cases hourly : fates (.getRecent found.config.symbol .oneHour 30) with
  | error failure =>
    have unread : hourlyRead found.config.symbol fates = none := by
      unfold hourlyRead
      rw [hourly]
      rfl
    have unranged : rangeRead found.config.symbol fates = none := by
      unfold rangeRead
      rw [unread]
      rfl
    have asked : (await (.getRecent found.config.symbol .oneHour 30)).exec fates desk =
        (desk, .error failure) := (exec_await _).trans (congrArg (Prod.mk desk) hourly)
    have thrown : (exitsIfLong paper bot found.config close).exec fates desk =
        (desk, .error failure) := by
      refine (exec_bind_ok (exec_readBot isBot)).trans ?_
      rw [if_pos isLong]
      exact exec_bind_error asked
    have silent : ¬ (exitsIfLong paper bot found.config close).Has fates Op.closes desk := by
      refine (passes_readBot isBot).not_has_bind ?_
      rw [if_pos isLong]
      exact not_has_bind_error asked (not_has_perform rfl)
    rw [unread, unranged]
    refine hasWhen_bind_error thrown silent ?_ ⟨found.barsInPosition, isBot⟩
    rintro (⟨range, none, -⟩ | ⟨none, -⟩)
    · cases none
    · cases none
  | ok bars =>
    have read : hourlyRead found.config.symbol fates = some bars := by
      unfold hourlyRead
      rw [hourly]
      rfl
    by_cases hit : ∃ range ∈ rangeRead found.config.symbol fates, found.HitBy close range
    · refine hasWhen_of_has (.inl hit) (has_bind ?_)
      obtain ⟨range, ranged, isHit⟩ := hit
      unfold rangeRead at ranged
      rw [read, Option.bind_some, Option.mem_ite_none_right] at ranged
      obtain ⟨enough, isRange⟩ := ranged
      cases isRange
      exact exitsIfLong_ends isBot hourly isLong isTrade enough isHit
    · have missed : ∀ range ∈ rangeRead found.config.symbol fates, ¬ found.HitBy close range :=
        fun range ranged isHit => hit ⟨range, ranged, isHit⟩
      obtain ⟨reached, passes, isLater⟩ :=
        @exitsIfLong_holds paper fates desk bot found close isBot bars hourly isLong missed
      refine passes.hasWhen_bind ?_
      have sold : ((∃ range ∈ rangeRead found.config.symbol fates, found.HitBy close range) ∨
          (hourlyRead found.config.symbol fates).isSome = true ∧
            ∃ size, fates (.decide (found.situation close)) = .ok ⟨.sell, size⟩) =
          ∃ size, fates (.decide (found.situation close)) = .ok ⟨.sell, size⟩ :=
        propext ⟨fun ended => (ended.resolve_left hit).2, fun sells => .inr ⟨by rw [read]; rfl,
          sells⟩⟩
      rw [sold]
      exact tickDecision_hasWhen isLater isLong isTrade

/-- A tick ends a position as said above, or leaves its trail as said above. -/
theorem tick_hasWhen :
    (tick paper bot found.config).HasWhen fates Op.closes desk (found.Exits fates)
      (Keeps bot found ((closeRead found.config.symbol fates).elim found.trailingStop fun close =>
        found.trailAfter close (rangeRead found.config.symbol fates))) := by
  unfold tick Bot.Exits closeRead
  cases recent : fates (.getRecent found.config.symbol .oneMinute 1) with
  | error failure =>
    have thrown : (await (.getRecent found.config.symbol .oneMinute 1)).exec fates desk =
        (desk, .error failure) := (exec_await _).trans (congrArg (Prod.mk desk) recent)
    refine hasWhen_bind_error thrown (not_has_perform rfl) ?_ ⟨found.barsInPosition, isBot⟩
    rintro ⟨close, none, -⟩
    cases none
  | ok bars =>
    refine (passes_getRecent recent).hasWhen_bind ?_
    cases bars with
    | nil =>
      refine hasWhen_done ?_ ⟨found.barsInPosition, isBot⟩
      rintro ⟨close, none, -⟩
      cases none
    | cons bar older =>
      simp only [Except.toOption, Option.bind_some, List.head?_cons, Option.map_some,
        Option.mem_some_iff, exists_eq_left', Option.elim_some]
      exact close_hasWhen isBot isLong isTrade

end

/-- A failure of a tick is logged and forgotten. -/
theorem runTick_hasWhen (isLong : found.position = .long)
    (isTrade : found.currentTradeId = some trade) :
    (runTick paper bot found.config).HasWhen fates Op.closes desk (found.Exits fates)
      (Keeps bot found ((closeRead found.config.symbol fates).elim found.trailingStop fun close =>
        found.trailAfter close (rangeRead found.config.symbol fates))) :=
  (tick_hasWhen isBot isLong isTrade).recover_done

end Long

end Calls

/-! ### A position -/

/-- A position that a bot has just opened, at a price with an average range. -/
structure Entry where
  paper : PaperConfig
  desk : Desk
  bot : ℕ
  before : Bot
  execPx : ℚ
  atrVal : ℚ
  trade : ℕ
  isOpen : desk.bots[bot]? = some (before.opened execPx atrVal trade)

namespace Entry

variable (entry : Entry)

def symbol : String := entry.before.config.symbol

def pass : Call Unit := runTick entry.paper entry.bot entry.before.config

/-- The desk after the ticks. The latest tick comes first. -/
def deskAfter : List Fates → Desk
  | [] => entry.desk
  | fates :: earlier => (entry.pass.exec fates (deskAfter earlier)).1

/-- A tick after the others ends the position: it comes to close it. -/
def Exits (fates : Fates) (earlier : List Fates) : Prop :=
  entry.pass.Has fates Op.closes (entry.deskAfter earlier)

instance (fates : Fates) (earlier : List Fates) : Decidable (entry.Exits fates earlier) :=
  inferInstanceAs (Decidable (entry.pass.Has fates Op.closes (entry.deskAfter earlier)))

def StaysOpen : List Fates → Prop
  | [] => True
  | fates :: earlier => StaysOpen earlier ∧ ¬ entry.Exits fates earlier

def trail (ticks : List Fates) : ℚ :=
  (entry.deskAfter ticks).bots[entry.bot]?.elim 0 Bot.trailingStop

def closes (ticks : List Fates) : List ℚ := ticks.filterMap (closeRead entry.symbol)

/-- Some close has exceeded the entry price plus one range. -/
def Armed (ticks : List Fates) : Prop :=
  ∃ fates ∈ ticks, ∃ close ∈ closeRead entry.symbol fates, ∃ range ∈ rangeRead entry.symbol fates,
    entry.execPx + range < close

/-- The close of a tick is at or below the highest close since the entry minus one and a half
ranges, and some close before it has exceeded the entry price plus one range. -/
def Due (fates : Fates) (earlier : List Fates) : Prop :=
  entry.Armed earlier ∧
    ∃ close ∈ closeRead entry.symbol fates, ∃ range ∈ rangeRead entry.symbol fates, ∃ highest,
      IsGreatest {other | other ∈ entry.closes (fates :: earlier)} highest ∧
        close ≤ highest - 3 / 2 * range

/-- While the position is open, each tick ends it that is due, and no other lowers the trail. -/
def Protects (ticks : List Fates) : Prop :=
  ∀ fates earlier, fates :: earlier <:+ ticks → entry.StaysOpen earlier →
    (entry.Due fates earlier → entry.Exits fates earlier) ∧
      (¬ entry.Exits fates earlier → entry.trail earlier ≤ entry.trail (fates :: earlier))

def levels (ticks : List Fates) : List ℚ :=
  ticks.filterMap fun fates => levelRead entry.symbol fates entry.execPx

/-- The close of a tick is beyond the stop or the take-profit, or it is more than one range above
the entry and not above the highest level, or the meta-policy decides to sell. -/
def Caught (fates : Fates) (earlier : List Fates) : Prop :=
  ∃ close ∈ closeRead entry.symbol fates,
    (∃ range ∈ rangeRead entry.symbol fates,
      close ≤ entry.execPx - 2 * entry.atrVal ∨
      (entry.execPx + 2 * entry.atrVal ≤ close ∧ 0 < entry.execPx + 2 * entry.atrVal) ∨
      (entry.execPx + range < close ∧ close ≤ highWater 0 (entry.levels (fates :: earlier)))) ∨
    ∃ bot ∈ (entry.deskAfter earlier).bots[entry.bot]?, bot.Sells fates close

def held : Bot := entry.before.opened entry.execPx entry.atrVal entry.trade

variable {entry} {fates : Fates} {earlier ticks : List Fates}

/-! ### While it is open -/

theorem highWater_levels_cons (bars : ℕ) :
    ((closeRead entry.symbol fates).elim (highWater 0 (entry.levels earlier)) fun close =>
      (entry.held.trailing (highWater 0 (entry.levels earlier)) bars).trailAfter close
        (rangeRead entry.symbol fates)) = highWater 0 (entry.levels (fates :: earlier)) := by
  have levels : entry.levels (fates :: earlier) =
      (levelRead entry.symbol fates entry.execPx).elim (entry.levels earlier)
        (· :: entry.levels earlier) := by
    unfold levels
    rw [List.filterMap_cons]
    cases levelRead entry.symbol fates entry.execPx with
    | none => rfl
    | some level => rfl
  rw [levels]
  unfold levelRead
  cases closeRead entry.symbol fates with
  | none => rfl
  | some close =>
    cases rangeRead entry.symbol fates with
    | none => rfl
    | some range =>
      rw [Option.bind_some, Option.bind_some, Option.elim_some]
      by_cases armed : entry.execPx + range < close
      · rw [if_pos armed]
        exact if_pos armed
      · rw [if_neg armed]
        exact if_neg armed

theorem keeps_deskAfter (stays : entry.StaysOpen ticks) :
    Keeps entry.bot entry.held (highWater 0 (entry.levels ticks)) (entry.deskAfter ticks) := by
  induction ticks with
  | nil => exact ⟨0, entry.isOpen⟩
  | cons fates earlier inductionHypothesis =>
    obtain ⟨open_before, stays_now⟩ := stays
    obtain ⟨bars, isBot⟩ := inductionHypothesis open_before
    have managed := @runTick_hasWhen entry.paper fates _ _ _ _ isBot rfl rfl
    obtain ⟨later, isLater⟩ := (managed.2 fun exits => stays_now (managed.1 exits)).2
    refine ⟨later, ?_⟩
    rw [← highWater_levels_cons bars]
    exact isLater

theorem trail_eq_highWater (stays : entry.StaysOpen ticks) :
    entry.trail ticks = highWater 0 (entry.levels ticks) := by
  obtain ⟨bars, isBot⟩ := keeps_deskAfter stays
  unfold trail
  rw [isBot]
  rfl

theorem exits_iff_caught (stays : entry.StaysOpen earlier) :
    entry.Exits fates earlier ↔ entry.Caught fates earlier := by
  obtain ⟨bars, isBot⟩ := keeps_deskAfter stays
  have managed := @runTick_hasWhen entry.paper fates _ _ _ _ isBot rfl rfl
  refine managed.iff.trans ?_
  unfold Caught
  rw [isBot]
  refine exists_congr fun close => and_congr_right fun isClose => or_congr ?_ ?_
  · refine exists_congr fun range => and_congr_right fun ranged => ?_
    refine or_congr Iff.rfl (or_congr Iff.rfl (and_congr_right fun armed => ?_))
    have read : closeRead entry.symbol fates = some close := isClose
    have range_read : rangeRead entry.symbol fates = some range := ranged
    rw [← highWater_levels_cons bars, read, range_read]
    exact iff_of_eq (congrArg (close ≤ ·) (if_pos armed).symm)
  · simp only [Option.mem_some_iff, exists_eq_left']

theorem highWater_levels_le :
    highWater 0 (entry.levels earlier) ≤ highWater 0 (entry.levels (fates :: earlier)) := by
  unfold levels
  rw [List.filterMap_cons]
  split
  · exact le_rfl
  · exact le_max_left _ _

/-! ### Steady ranges -/

/-- While the ranges are not below four fifths of the range of the entry, no level reaches the
price that arms the trail: the take-profit ends the position first. -/
theorem level_lt_of_steady (isPrice : 0 ≤ entry.execPx) (isRange : 0 < entry.atrVal)
    (stays : entry.StaysOpen ticks) (steady : ∀ fates ∈ ticks,
      ∀ range ∈ rangeRead entry.symbol fates, 4 / 5 * entry.atrVal ≤ range) :
    ∀ level ∈ entry.levels ticks, level < entry.execPx + 4 / 5 * entry.atrVal := by
  induction ticks with
  | nil => exact fun level member => by cases member
  | cons fates earlier inductionHypothesis =>
    obtain ⟨open_before, stays_now⟩ := stays
    rw [exits_iff_caught open_before] at stays_now
    obtain ⟨steady_now, steady_before⟩ := List.forall_mem_cons.mp steady
    intro level member
    obtain ⟨tick, isTick, isLevel⟩ := List.mem_filterMap.mp member
    obtain rfl | older := List.mem_cons.mp isTick
    · obtain ⟨close, isClose, rest⟩ := Option.bind_eq_some_iff.mp isLevel
      obtain ⟨range, ranged, isLevel⟩ := Option.bind_eq_some_iff.mp rest
      obtain ⟨-, isLevel⟩ := Option.ite_none_right_eq_some.mp isLevel
      have below : close < entry.execPx + 2 * entry.atrVal := by
        by_contra taken
        refine stays_now ⟨close, isClose, .inl ⟨range, ranged, .inr (.inl ⟨not_lt.mp taken, ?_⟩)⟩⟩
        linarith
      have wide := steady_now range ranged
      have isLevel : close - 3 / 2 * range = level := Option.some.inj isLevel
      linarith
    · exact inductionHypothesis open_before steady_before level
        (List.mem_filterMap.mpr ⟨tick, older, isLevel⟩)

/-- While the ranges are not below four fifths of the range of the entry, the trail never ends the
position. -/
theorem not_trailed_of_steady (isPrice : 0 ≤ entry.execPx) (isRange : 0 < entry.atrVal)
    (stays : entry.StaysOpen earlier) (steady : ∀ tick ∈ fates :: earlier,
      ∀ range ∈ rangeRead entry.symbol tick, 4 / 5 * entry.atrVal ≤ range) {close range : ℚ}
    (isClose : closeRead entry.symbol fates = some close)
    (ranged : rangeRead entry.symbol fates = some range)
    (armed : entry.execPx + range < close) :
    highWater 0 (entry.levels (fates :: earlier)) < close := by
  obtain ⟨steady_now, steady_before⟩ := List.forall_mem_cons.mp steady
  have wide := steady_now range ranged
  have levelRead_eq : levelRead entry.symbol fates entry.execPx = some (close - 3 / 2 * range) := by
    unfold levelRead
    rw [isClose, Option.bind_some, ranged, Option.bind_some, if_pos armed]
  have levels_eq : entry.levels (fates :: earlier) =
      (close - 3 / 2 * range) :: entry.levels earlier := List.filterMap_cons_some levelRead_eq
  rw [levels_eq, highWater_lt_iff, List.forall_mem_cons]
  refine ⟨by linarith, by linarith, fun level member => ?_⟩
  have low := level_lt_of_steady isPrice isRange stays steady_before level member
  linarith

/-- A position is protected if and only if each tick is caught that is due while it is open. -/
theorem protects_iff (entry : Entry) (ticks : List Fates) :
    entry.Protects ticks ↔ ∀ fates earlier, fates :: earlier <:+ ticks → entry.StaysOpen earlier →
      entry.Due fates earlier → entry.Caught fates earlier := by
  refine forall₄_congr fun fates earlier suffix stays => ?_
  rw [← exits_iff_caught stays]
  refine and_iff_left fun stays_now => ?_
  have stays_after : entry.StaysOpen (fates :: earlier) := ⟨stays, stays_now⟩
  rw [trail_eq_highWater stays, trail_eq_highWater stays_after]
  exact highWater_levels_le

end Entry

/-! ### A position that gives its gain back -/

/-- What a tick meets at a close, while the hourly bars have a range of ten. -/
private def closeAt (close : ℚ) : Fates
  | .getRecent _ .oneHour _ => .ok (List.replicate 16 ⟨105, 95, 100⟩)
  | .getRecent _ _ _ => .ok [⟨close, close, close⟩]
  | op => silent op

/-- A position at 100, with the average range of ten. -/
private def atHundred : Entry where
  paper := .default
  desk := ⟨[(newBot bitcoinBot 1000).opened 100 10 0],
    [bitcoinBot.trade 0 100 (some 100)], []⟩
  bot := 0
  before := newBot bitcoinBot 1000
  execPx := 100
  atrVal := 10
  trade := 0
  isOpen := rfl

/-- A close of 115 arms the trail at 100, and a close of 99 does not end the position. -/
theorem not_protects : ¬ ∀ (entry : Entry) (ticks : List Fates), entry.Protects ticks := by
  intro claimed
  have stays : atHundred.StaysOpen [closeAt 115] := ⟨trivial, by decide +kernel⟩
  have due : atHundred.Due (closeAt 99) [closeAt 115] := by
    refine ⟨⟨_, List.mem_singleton_self _, 115, rfl, 10, by decide +kernel, by decide +kernel⟩,
      99, rfl, 10, by decide +kernel, _, isGreatest_mem_cons isGreatest_mem_singleton,
      by decide +kernel⟩
  have exits := (claimed atHundred [closeAt 99, closeAt 115] _ _ List.suffix_rfl stays).1 due
  exact absurd exits (by decide +kernel)

end GdslExchange.Advanced
