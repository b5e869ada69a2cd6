/-
This file settles when the stored peak of a trailing lot is the highest mark
that a tick has seen since the lot was opened.

The engines raise the peak in one branch of the decision only: where the lot
follows the mark. The peak is the highest mark exactly when every tick that sees
a mark follows it, or could not have raised the peak nor found the trail armed.
-/

import GdslExchange.Exits.Agreement
import GdslExchange.Numeric.HighWater

namespace GdslExchange.Exits

open Cex (CexOpenLong)
open Numeric

/-! ### An engine -/

/-- An engine that watches a lot: what a tick sees, and what it decides with the stored peak. A
decision follows the mark or leaves the peak and the trail alone. -/
structure Engine (Tick : Type) where
  lot : Tick → Lot
  settings : Tick → ExitSettings
  seen : Tick → Option ℚ
  decision : Option ℚ → Tick → Option ExitDecision
  unseen : ∀ {peak tick}, seen tick = none → decision peak tick = none
  follows : ∀ (peak : Option ℚ) {tick mark}, seen tick = some mark →
    (lot tick).Follows (settings tick) mark → ∃ decided, decision peak tick = some decided ∧
      decided.peakWrite =
        (if max (peak.getD 0) mark > peak.getD 0 then some (max (peak.getD 0) mark) else none) ∧
      decided.armed = decide ((lot tick).armingPrice (settings tick) ≤ max (peak.getD 0) mark)
  stays : ∀ {peak tick mark}, seen tick = some mark →
    ¬ (lot tick).Follows (settings tick) mark →
      ∀ decided ∈ decision peak tick, decided.Still

namespace Engine

variable {Tick : Type} (engine : Engine Tick)

/-- The marks that the ticks have seen. The latest tick comes first. -/
def marks (ticks : List Tick) : List ℚ := ticks.filterMap engine.seen

def peakAfter (start : Option ℚ) : List Tick → Option ℚ
  | [] => start
  | tick :: earlier =>
    ((engine.decision (peakAfter start earlier) tick).bind ExitDecision.peakWrite).or
      (peakAfter start earlier)

/-- The last tick found the trail armed. -/
def Armed (start : Option ℚ) (tick : Tick) (earlier : List Tick) : Prop :=
  ∃ decided ∈ engine.decision (engine.peakAfter start earlier) tick, decided.armed = true

/-- The price that a peak must reach at a tick for the trail to be armed. -/
def armingPrice (tick : Tick) : ℚ := (engine.lot tick).armingPrice (engine.settings tick)

/-- The stored peak is the highest mark seen, and a tick that sees a mark finds the trail armed
exactly when the highest mark has reached the arming price. -/
def Exact (start : Option ℚ) (ticks : List Tick) : Prop :=
  ∀ top, IsGreatest {mark | mark ∈ engine.marks ticks} top →
    (engine.peakAfter start ticks).getD 0 = top ∧
      ∀ tick earlier, ticks = tick :: earlier → (engine.seen tick).isSome →
        (engine.Armed start tick earlier ↔ engine.armingPrice tick ≤ top)

/-- The tick follows the mark it sees, or its mark is no new high and no trail is due. The first
mark is not below the peak that the lot was opened with. -/
def Tracks (start : Option ℚ) (tick : Tick) (earlier : List Tick) : Prop :=
  ∀ mark ∈ engine.seen tick,
    (engine.marks earlier = [] → start.getD 0 ≤ mark) ∧
      ((engine.lot tick).Follows (engine.settings tick) mark ∨
        (mark ≤ highWater (start.getD 0) (engine.marks earlier) ∧
          highWater (start.getD 0) (engine.marks earlier) < engine.armingPrice tick))

def AlwaysTracks (start : Option ℚ) : List Tick → Prop
  | [] => True
  | tick :: earlier => AlwaysTracks start earlier ∧ engine.Tracks start tick earlier

variable {engine} {start : Option ℚ} {tick : Tick} {earlier ticks : List Tick} {mark : ℚ}

/-! ### One tick -/

theorem marks_of_unseen (unseen : engine.seen tick = none) :
    engine.marks (tick :: earlier) = engine.marks earlier :=
  List.filterMap_cons_none unseen

theorem marks_of_seen (seen : engine.seen tick = some mark) :
    engine.marks (tick :: earlier) = mark :: engine.marks earlier :=
  List.filterMap_cons_some seen

theorem peakAfter_of_unseen (unseen : engine.seen tick = none) :
    engine.peakAfter start (tick :: earlier) = engine.peakAfter start earlier := by
  rw [peakAfter, engine.unseen unseen]
  rfl

section

variable (seen : engine.seen tick = some mark)
include seen

theorem peakAfter_of_follows (follows : (engine.lot tick).Follows (engine.settings tick) mark) :
    (engine.peakAfter start (tick :: earlier)).getD 0 =
      max ((engine.peakAfter start earlier).getD 0) mark := by
  obtain ⟨decided, decision, written, -⟩ :=
    engine.follows (engine.peakAfter start earlier) seen follows
  rw [peakAfter, decision, Option.bind_some, written]
  split
  · rfl
  · next higher => exact (max_eq_left (by simpa using higher)).symm

theorem armed_of_follows (follows : (engine.lot tick).Follows (engine.settings tick) mark) :
    engine.Armed start tick earlier ↔
      engine.armingPrice tick ≤ max ((engine.peakAfter start earlier).getD 0) mark := by
  obtain ⟨decided, decision, -, armed⟩ :=
    engine.follows (engine.peakAfter start earlier) seen follows
  unfold Armed armingPrice
  simp [decision, armed]

theorem peakAfter_of_stays (stays : ¬ (engine.lot tick).Follows (engine.settings tick) mark) :
    engine.peakAfter start (tick :: earlier) = engine.peakAfter start earlier := by
  rw [peakAfter]
  cases decision : engine.decision (engine.peakAfter start earlier) tick with
  | none => rfl
  | some decided =>
    rw [Option.bind_some, (engine.stays seen stays decided decision).1]
    rfl

theorem not_armed_of_stays (stays : ¬ (engine.lot tick).Follows (engine.settings tick) mark) :
    ¬ engine.Armed start tick earlier := by
  rintro ⟨decided, decision, armed⟩
  exact Bool.false_ne_true ((engine.stays seen stays decided decision).2.symm.trans armed)

end

/-! ### Every run -/

theorem peakAfter_eq_highWater (tracks : engine.AlwaysTracks start ticks) :
    (engine.peakAfter start ticks).getD 0 = highWater (start.getD 0) (engine.marks ticks) := by
  induction ticks with
  | nil => rfl
  | cons tick earlier inductionHypothesis =>
    obtain ⟨tracked, now⟩ := tracks
    have stored := inductionHypothesis tracked
    cases seen : engine.seen tick with
    | none => rw [peakAfter_of_unseen seen, marks_of_unseen seen, stored]
    | some mark =>
      rw [marks_of_seen seen, highWater_cons]
      by_cases follows : (engine.lot tick).Follows (engine.settings tick) mark
      · rw [peakAfter_of_follows seen follows, stored]
      · obtain low := ((now mark seen).2.resolve_left follows).1
        rw [peakAfter_of_stays seen follows, stored, max_eq_left low]

theorem isGreatest_highWater (tracks : engine.AlwaysTracks start ticks)
    (seenOne : engine.marks ticks ≠ []) :
    IsGreatest {mark | mark ∈ engine.marks ticks}
      (highWater (start.getD 0) (engine.marks ticks)) := by
  induction ticks with
  | nil => exact absurd rfl seenOne
  | cons tick earlier inductionHypothesis =>
    obtain ⟨tracked, now⟩ := tracks
    cases seen : engine.seen tick with
    | none =>
      rw [marks_of_unseen seen] at seenOne ⊢
      exact inductionHypothesis tracked seenOne
    | some mark =>
      rw [marks_of_seen seen]
      by_cases first : engine.marks earlier = []
      · rw [first, highWater_cons, highWater_nil, max_eq_right ((now mark seen).1 first)]
        exact isGreatest_mem_singleton
      · exact isGreatest_mem_cons (inductionHypothesis tracked first)

theorem exact_of_alwaysTracks (tracks : engine.AlwaysTracks start ticks) :
    engine.Exact start ticks := by
  intro top greatest
  have seenOne : engine.marks ticks ≠ [] := List.ne_nil_of_mem greatest.1
  have top_eq : top = highWater (start.getD 0) (engine.marks ticks) :=
    greatest.unique (isGreatest_highWater tracks seenOne)
  refine ⟨(peakAfter_eq_highWater tracks).trans top_eq.symm, ?_⟩
  rintro tick earlier rfl sees
  obtain ⟨mark, seen⟩ := Option.isSome_iff_exists.mp sees
  obtain ⟨tracked, now⟩ := tracks
  rw [marks_of_seen seen, highWater_cons] at top_eq
  by_cases follows : (engine.lot tick).Follows (engine.settings tick) mark
  · rw [armed_of_follows seen follows, peakAfter_eq_highWater tracked, top_eq]
  · obtain ⟨low, unarmed⟩ := (now mark seen).2.resolve_left follows
    rw [top_eq, max_eq_left low]
    exact iff_of_false (not_armed_of_stays seen follows) (not_le.mpr unarmed)

theorem tracks_of_exact (tracked : engine.AlwaysTracks start earlier)
    (exact : engine.Exact start (tick :: earlier)) : engine.Tracks start tick earlier := by
  intro mark seen
  have stored := peakAfter_eq_highWater tracked
  by_cases first : engine.marks earlier = []
  · have greatest : IsGreatest {mark | mark ∈ engine.marks (tick :: earlier)} mark := by
      rw [marks_of_seen seen, first]
      exact isGreatest_mem_singleton
    obtain ⟨peak, armed⟩ := exact mark greatest
    rw [first, highWater_nil] at stored ⊢
    by_cases follows : (engine.lot tick).Follows (engine.settings tick) mark
    · rw [peakAfter_of_follows seen follows, stored] at peak
      exact ⟨fun _ => max_eq_right_iff.mp peak, Or.inl follows⟩
    · rw [peakAfter_of_stays seen follows, stored] at peak
      have unarmed := (armed tick earlier rfl (Option.isSome_of_mem seen)).not.mp
        (not_armed_of_stays seen follows)
      exact ⟨fun _ => peak.le, Or.inr ⟨peak.ge, peak ▸ not_le.mp unarmed⟩⟩
  · refine ⟨fun none => absurd none first, ?_⟩
    have greatest : IsGreatest {mark | mark ∈ engine.marks (tick :: earlier)}
        (max (highWater (start.getD 0) (engine.marks earlier)) mark) := by
      rw [marks_of_seen seen]
      exact isGreatest_mem_cons (isGreatest_highWater tracked first)
    obtain ⟨peak, armed⟩ := exact _ greatest
    by_cases follows : (engine.lot tick).Follows (engine.settings tick) mark
    · exact Or.inl follows
    · rw [peakAfter_of_stays seen follows, stored] at peak
      have unarmed := (armed tick earlier rfl (Option.isSome_of_mem seen)).not.mp
        (not_armed_of_stays seen follows)
      rw [← peak] at unarmed
      exact Or.inr ⟨max_eq_left_iff.mp peak.symm, not_le.mp unarmed⟩

theorem exact_iff_alwaysTracks :
    (∀ past, past <:+ ticks → engine.Exact start past) ↔ engine.AlwaysTracks start ticks := by
  induction ticks with
  | nil =>
    refine iff_of_true ?_ trivial
    intro past suffix
    rw [List.suffix_nil.mp suffix]
    exact exact_of_alwaysTracks trivial
  | cons tick earlier inductionHypothesis =>
    constructor
    · intro exact
      have tracked := inductionHypothesis.mp fun past suffix =>
        exact past (suffix.trans (List.suffix_cons tick earlier))
      exact ⟨tracked, tracks_of_exact tracked (exact _ List.suffix_rfl)⟩
    · rintro ⟨tracked, now⟩ past suffix
      obtain rfl | older := List.suffix_cons_iff.mp suffix
      · exact exact_of_alwaysTracks ⟨tracked, now⟩
      · exact inductionHypothesis.mpr tracked past older

end Engine

/-! ### The two engines -/

def Lot.withPeak (lot : Lot) (peak : Option ℚ) : Lot := { lot with peak := peak }

theorem Lot.target_le_of_not_follows {lot : Lot} {settings : ExitSettings} {mark : ℚ}
    (enabled : settings.enabled = true) (trails : lot.Trails settings)
    (stays : ¬ lot.Follows settings mark) : lot.target settings ≤ mark := by
  by_contra below
  exact stays ⟨enabled, not_le.mp below, trails⟩

/-- What a pass of the watcher meets: the lot, apart from its peak, and the settings, the cooldowns
and the quote of the moment. -/
structure WatcherTick where
  lot : Lot
  prefs : ExitSettings
  cooling : Bool
  quoted : Option ℚ
  skimReady : Bool
  decimals : Option ℕ
  trails : lot.Trails prefs

/-- `runJupiterOpenPositionWatcher` on one lot. -/
def watcher : Engine WatcherTick where
  lot := WatcherTick.lot
  settings := WatcherTick.prefs
  seen := fun tick => if tick.cooling ∨ tick.prefs.enabled = false then none else tick.quoted
  decision := fun peak tick => (tick.lot.withPeak peak).trade.visit tick.prefs tick.cooling
    tick.quoted tick.skimReady tick.decimals
  unseen := by
    intro peak tick unseen
    obtain ⟨lot, prefs, cooling, quoted, skimReady, decimals, trails⟩ := tick
    cases cooling with
    | true => rfl
    | false =>
      cases enabled : prefs.enabled with
      | false => exact visit_of_disabled enabled
      | true =>
        have unquoted : quoted = none := by simpa [enabled] using unseen
        subst unquoted
        unfold OpenTrade.visit
        simp
  follows := by
    intro peak tick mark seen follows
    obtain ⟨lot, prefs, cooling, quoted, skimReady, decimals, trails⟩ := tick
    obtain ⟨watching, rfl⟩ : ¬ (cooling = true ∨ prefs.enabled = false) ∧ quoted = some mark := by
      simpa using seen
    obtain ⟨rfl, -⟩ : cooling = false ∧ prefs.enabled = true := by simpa using watching
    have followsStored : (lot.withPeak peak).Follows prefs mark := follows
    refine ⟨_, visit_eq followsStored.1, ?_⟩
    rw [trade_decideExit_of_not_target (not_le.mpr followsStored.2.1),
      if_pos followsStored.2.2, trade_trail_eq followsStored]
    exact ⟨rfl, rfl⟩
  stays := by
    intro peak tick mark seen stays decided decision
    obtain ⟨lot, prefs, cooling, quoted, skimReady, decimals, trails⟩ := tick
    obtain ⟨watching, rfl⟩ : ¬ (cooling = true ∨ prefs.enabled = false) ∧ quoted = some mark := by
      simpa using seen
    obtain ⟨rfl, enabled⟩ : cooling = false ∧ prefs.enabled = true := by simpa using watching
    have reached := Lot.target_le_of_not_follows enabled trails stays
    have reachedStored : (lot.withPeak peak).target prefs ≤ mark := reached
    rw [visit_eq enabled, Option.mem_some_iff] at decision
    subst decision
    exact trade_decideExit_still reachedStored

/-- What a tick of the CEX machine meets on a lot whose coin is held. -/
structure MachineTick where
  lot : Lot
  symbol : String
  pair : String
  exit : ExitSettings
  freeBase : ℚ
  quoted : Option ℚ
  skimReady : Bool
  trails : lot.Trails exit
  held : ¬ (lot.long symbol pair).IsGhost freeBase

/-- `tickUser` on one lot. -/
def machine : Engine MachineTick where
  lot := MachineTick.lot
  settings := MachineTick.exit
  seen := MachineTick.quoted
  decision := fun peak tick => ((tick.lot.withPeak peak).long tick.symbol
    tick.pair).visit tick.exit tick.freeBase tick.quoted tick.skimReady
  unseen := by
    intro peak tick unseen
    unfold CexOpenLong.visit
    rw [unseen, Option.map_none, ite_self]
  follows := by
    intro peak tick mark seen follows
    obtain ⟨lot, symbol, pair, exit, freeBase, _, skimReady, trails, held⟩ := tick
    obtain rfl := seen
    have heldStored : ¬ ((lot.withPeak peak).long symbol pair).IsGhost freeBase := held
    have followsStored : (lot.withPeak peak).Follows exit mark := follows
    refine ⟨_, long_visit_eq heldStored, ?_⟩
    rw [long_decideExit_of_not_target followsStored.1 (not_le.mpr followsStored.2.1),
      if_pos followsStored.2.2, long_trail_eq followsStored]
    exact ⟨rfl, rfl⟩
  stays := by
    intro peak tick mark seen stays decided decision
    obtain ⟨lot, symbol, pair, exit, freeBase, _, skimReady, trails, held⟩ := tick
    obtain rfl := seen
    have heldStored : ¬ ((lot.withPeak peak).long symbol pair).IsGhost freeBase := held
    rw [long_visit_eq heldStored, Option.mem_some_iff] at decision
    subst decision
    obtain enabled | disabled := Bool.eq_false_or_eq_true exit.enabled
    · have reached : (lot.withPeak peak).target exit ≤ mark :=
        Lot.target_le_of_not_follows enabled trails stays
      rw [long_decideExit_of_reached enabled reached]
      exact long_takeProfit_still
    · rw [long_decideExit_of_disabled disabled]
      exact ⟨rfl, rfl⟩

section Example

private theorem risingLot_entry : (0 : ℚ) < 1 := by
  norm_num

private theorem risingLot_quantity : (0 : ℚ) < 100 := by
  norm_num

private def risingLot : Lot where
  entryPrice := 1
  quantity := 100
  peak := none
  banked := none
  takeProfitPct := none
  stopLossPct := none
  trailingStop := none
  entryPrice_pos := risingLot_entry
  quantity_pos := risingLot_quantity
  stopLossPct_nonneg := stopLossPct_unset

private theorem skimming_stop : (0 : ℚ) ≤ 5 := by
  norm_num

private def skimming : ExitSettings where
  enabled := true
  takeProfitPct := 5
  stopLossPct := 5
  profitSkim := true
  trailingStop := true
  trailingActivationPct := 8 / 10
  trailingDeltaPct := 4 / 10
  stopLossPct_nonneg := skimming_stop

private def passAt (mark : ℚ) : WatcherTick where
  lot := risingLot
  prefs := skimming
  cooling := false
  quoted := some mark
  skimReady := true
  decimals := some 6
  trails := rfl

private def tickAt (mark : ℚ) : MachineTick where
  lot := risingLot
  symbol := "WIFUSDT"
  pair := "WIF/USDT"
  exit := skimming
  freeBase := 100
  quoted := some mark
  skimReady := true
  trails := rfl
  held := by decide +kernel

end Example

end GdslExchange.Exits
