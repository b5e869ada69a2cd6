/-
This file settles when the size that the trade advisor recommends binds the BUY that it was asked
about, in every run of the live bots.

The forced first entry and a caution apply the recommendation with a floor of one USDT, and the
forced first entry takes a recommendation of zero for none. An answer that says ok is not applied
at all, though the advisor may have reduced the size in it; and what a tick has applied may be
overwritten by another call before the order is opened.
-/

import GdslExchange.Live.Agreement
import GdslExchange.Live.Walk
import GdslExchange.Signals.TradeAdvisor

namespace GdslExchange.Live

open Async Async.Program
open Protocol (Follows Stays Within ends phase)

/-! ### What a run should keep -/

/-- What an event says about the advice of its caller: an answer, or that there is none. -/
def advice : Event venue → Option (Option Advisory)
  | ⟨_, .evaluateTradeIntent _ _ _, _, .ok advisory⟩ => some (some advisory)
  | ⟨_, .evaluateTradeIntent _ _ _, _, .error _⟩ => some none
  | _ => none

/-- The last answer of the advisor to a caller. -/
def latestAdvice (moment : Moment venue) (caller : ℕ) : Option Advisory :=
  ((moment.own caller).findSome? advice).join

/-- A BUY after an answer that allows it is for at most the recommended size. -/
def Bound (step : Step venue) : Prop :=
  match step.op with
  | .placeOrder _ ⟨.buy, quote⟩ => ∀ advisory ∈ latestAdvice step.before step.caller,
      advisory.allow = true → quote ≤ advisory.recommendedSizeUsdt
  | _ => True

def buyQuote : Op → Option ℚ
  | .placeOrder _ ⟨.buy, quote⟩ => some quote
  | _ => none

instance (step : Step venue) : Decidable (Bound step) :=
  decidable_of_iff (∀ quote ∈ buyQuote step.op, ∀ advisory ∈ latestAdvice step.before step.caller,
    advisory.allow = true → quote ≤ advisory.recommendedSizeUsdt) (by
      unfold Bound buyQuote
      generalize step.op = op
      split <;> simp)

/-! ### What a tick does with an answer -/

def Advisory.reducedSize (advisory : Advisory) : ℚ :=
  max 1 (floorCents advisory.recommendedSizeUsdt)

/-- How far a tick is with an answer: it has done nothing, is about to reduce the order size, has
set or found one that applies the answer, or has read the order size to open an order, after it
has applied the answer or without. -/
inductive Stage where
  | answered
  | reducing
  | applied (size : ℚ)
  | opening (applied : Option ℚ) (found : ℚ)

/-- An answer that allows the order, and how far its caller is with it. -/
structure Heed where
  advisory : Advisory
  stage : Stage

namespace Heed

variable (heed : Heed)

/-- After the order size has been read. -/
def read (found : ℚ) : Heed where
  advisory := heed.advisory
  stage := match heed.stage with
    | .answered =>
      if heed.advisory.caution then
        if heed.advisory.reducedSize < found then .reducing else .applied found
      else .opening none found
    | .reducing => .reducing
    | .applied size => .opening (some size) found
    | .opening applied _ => .opening applied found

def set (size : ℚ) : Heed where
  advisory := heed.advisory
  stage := match heed.stage with
    | .answered => .applied size
    | .reducing => .applied size
    | stage => stage

end Heed

/-- An order size is within the recommendation, in whole cents, unless that is under one USDT. -/
def Advisory.Admits (advisory : Advisory) (size : ℚ) : Prop :=
  1 ≤ advisory.recommendedSizeUsdt → floorCents size ≤ advisory.recommendedSizeUsdt

/-- A BUY is for the order size that has been read, in whole cents; what has been applied before
is within the recommendation. -/
def heeding : Protocol venue (Option Heed) where
  start := none
  permits phase
    | .placeOrder _ ⟨.buy, quote⟩ => ∀ heed ∈ phase, ∃ applied found,
        heed.stage = .opening applied found ∧ quote = floorCents found ∧ 1 ≤ quote ∧
          ∀ size ∈ applied, heed.advisory.Admits size
    | _ => True
  next phase
    | .evaluateTradeIntent _ _ _, .ok advisory =>
      if advisory.allow then some ⟨advisory, .answered⟩ else none
    | .evaluateTradeIntent _ _ _, .error _ => none
    | .readBot _, .ok reading => phase.map (Heed.read · reading.bot.orderSizeUsdt)
    | .overwriteSize _ size, .ok _ => phase.map (Heed.set · size)
    | .reduceSize _ size, .ok _ => phase.map (Heed.set · size)
    | _, _ => phase

/-- A BUY after an answer that allows it: at least one USDT is recommended, and the order size is
the one that applies the answer, or it is within the recommendation in whole cents. -/
def Heeded (step : Step venue) : Prop :=
  match step.op with
  | .placeOrder _ ⟨.buy, _⟩ => ∀ heed ∈ heeding.phase step.before step.caller,
      1 ≤ heed.advisory.recommendedSizeUsdt ∧
        ∀ applied found, heed.stage = .opening applied found →
          applied = some found ∨ floorCents found ≤ heed.advisory.recommendedSizeUsdt
  | _ => True

/-! ### Sizes -/

theorem floorCents_le (amount : ℚ) : floorCents amount ≤ amount := by
  unfold floorCents
  rw [div_le_iff₀ (by norm_num)]
  exact Int.floor_le _

variable {advisory : Advisory} {size : ℚ}

theorem Advisory.admits_of_le (within : 1 ≤ advisory.recommendedSizeUsdt →
    size ≤ advisory.recommendedSizeUsdt) : advisory.Admits size :=
  fun enough => (floorCents_le size).trans (within enough)

theorem Advisory.reducedSize_le (enough : 1 ≤ advisory.recommendedSizeUsdt) :
    advisory.reducedSize ≤ advisory.recommendedSizeUsdt := max_le enough (floorCents_le _)

theorem Advisory.admits_reducedSize : advisory.Admits advisory.reducedSize :=
  admits_of_le reducedSize_le

theorem Advisory.admits_forcedSize (safeSize : ℚ) :
    advisory.Admits (forcedSize safeSize (some advisory)) := by
  refine admits_of_le fun enough => ?_
  have positive : advisory.recommendedSizeUsdt > 0 := one_pos.trans_le enough
  unfold forcedSize
  dsimp only
  rw [if_pos positive]
  exact max_le enough ((floorCents_le _).trans (min_le_right _ _))

/-! ### Phases an order may be opened in -/

/-- A BUY may be opened: if there is an answer, it has been applied, or it says ok. -/
def Ready (phase : Option Heed) : Prop :=
  ∀ heed ∈ phase, match heed.stage with
    | .answered => heed.advisory.caution = false
    | .reducing => False
    | .applied size => heed.advisory.Admits size
    | .opening applied _ => ∀ size ∈ applied, heed.advisory.Admits size

/-- The order size has been read to open an order. -/
def Opened (found : ℚ) (phase : Option Heed) : Prop :=
  ∀ heed ∈ phase, ∃ applied, heed.stage = .opening applied found ∧
    ∀ size ∈ applied, heed.advisory.Admits size

theorem ready_none : Ready none := fun heed member => by cases member

variable {phase : Option Heed}

theorem Opened.ready {found : ℚ} (opened : Opened found phase) :
    Ready phase := by
  intro heed member
  obtain ⟨applied, stage, admits⟩ := opened heed member
  rw [stage]
  exact admits

theorem Ready.opened (ready : Ready phase) (found : ℚ) :
    Opened found (phase.map (Heed.read · found)) := by
  intro heed member
  obtain ⟨earlier, isEarlier, rfl⟩ := Option.map_eq_some_iff.mp member
  have holds := ready earlier isEarlier
  obtain ⟨advisory, stage⟩ := earlier
  cases stage with
  | answered =>
    have ok : advisory.caution = false := holds
    refine ⟨none, ?_, fun size none => by cases none⟩
    show (if advisory.caution then _ else _) = _
    rw [ok]
    rfl
  | reducing => exact holds.elim
  | applied size =>
    refine ⟨some size, rfl, fun other same => ?_⟩
    rw [← Option.some.inj same]
    exact holds
  | opening applied earlier => exact ⟨applied, rfl, holds⟩

/-! ### The calls -/

/-- Common operations but for the reading of a bot. -/
def Unread : Op → Prop
  | .readBot _ => False
  | op => Common op

variable {op : Op}

theorem neutral_unread (unread : Unread op) (phase : Option Heed) :
    heeding.Neutral phase op := by
  cases op with
  | readBot bot => exact unread.elim
  | placeOrder bot order => exact unread.elim
  | evaluateTradeIntent symbol sizeUsdt accountEquityUsdt => exact unread.elim
  | overwriteSize bot size => exact unread.elim
  | reduceSize bot size => exact unread.elim
  | _ => exact ⟨trivial, fun reply => by cases reply <;> rfl⟩

theorem stays_unread {Value : Type} {program : Call Value} (only : program.Only Unread)
    (phase : Option Heed) : heeding.Stays phase program :=
  Follows.neutral (only.mono fun _ unread => neutral_unread unread phase)

theorem readBot_opens (ready : Ready phase) (bot : ℕ) :
    heeding.Follows phase (await (.readBot bot))
      (ends (fun reading reached => Opened reading.bot.orderSizeUsdt reached) Ready) :=
  Follows.perform trivial (fun reading => ready.opened reading.bot.orderSizeUsdt)
    fun _ => ready

/-- Common operations, and orders that sell. -/
def Unbought : Op → Prop
  | .placeOrder _ order => order.side = .sell
  | op => Common op

theorem ready_unbought (unbought : Unbought op) (phase : Option Heed) (ready : Ready phase) :
    heeding.permits phase op ∧ ∀ reply, Ready (heeding.next phase op reply) := by
  by_cases unread : Unread op
  · obtain ⟨permitted, same⟩ := neutral_unread unread phase
    exact ⟨permitted, fun reply => (same reply).symm ▸ ready⟩
  · cases op with
    | readBot bot =>
      refine ⟨trivial, fun reply => ?_⟩
      cases reply with
      | ok reading => exact (ready.opened reading.bot.orderSizeUsdt).ready
      | error failure => exact ready
    | placeOrder bot order =>
      obtain ⟨side, quantity⟩ := order
      rw [show side = .sell from unbought]
      exact ⟨trivial, fun _ => ready⟩
    | _ => exact absurd unbought unread

theorem unbought_of_common (isCommon : Common op) : Unbought op := by
  cases op with
  | placeOrder bot order => exact isCommon.elim
  | _ => exact isCommon

theorem within_unbought {Value : Type} {program : Call Value} (only : program.Only Unbought) :
    heeding.Within Ready Ready program :=
  Within.only (only.mono fun _ => ready_unbought)

section Calls

variable (bot : ℕ) (price : ℚ)

theorem log_unread (kind : LogKind) (message : String) : (log kind message).Only Unread :=
  only_perform trivial

theorem log_unbought (kind : LogKind) (message : String) : (log kind message).Only Unbought :=
  only_perform trivial

theorem closePosition_unbought : (closePosition bot price).Only Unbought := by
  have tried (quantity : ℚ) : (tryOrder bot ⟨.sell, quantity⟩).Only Unbought := by
    refine only_recover (only_then rfl fun _ => trivial) fun _ => ?_
    exact only_bind (log_unbought _ _) fun _ => trivial
  refine only_then trivial fun reading => ?_
  split
  · trivial
  · refine only_bind (log_unbought _ _) fun _ => only_then trivial fun reading => ?_
    refine only_bind (tried _) fun filled => ?_
    cases filled with
    | none => trivial
    | some soldQty =>
      refine only_bind (log_unbought _ _) fun _ => only_then trivial fun _ => ?_
      refine only_then trivial fun _ => only_then trivial fun _ => ?_
      exact only_bind (log_unbought _ _) fun _ => only_perform trivial

/-- What follows the fill of a BUY or a rejection. -/
theorem placed_common (settings : BotSettings) (quoteQty : ℚ) (filled : Option ℚ) :
    (match filled with
      | none => pure ()
      | some qty =>
        if qty ≤ 0 then log .executionFailed "No fill quantity returned from Binance"
        else bookLong bot settings price quoteQty qty : Call Unit).Only Unread := by
  cases filled with
  | none => trivial
  | some qty =>
    dsimp only
    split
    · exact log_unread _ _
    · refine only_bind (log_unread _ _) fun _ => ?_
      refine only_then trivial fun _ => ?_
      refine only_then trivial fun _ => ?_
      exact only_then trivial fun _ => log_unread _ _

/-- A BUY that may be opened is for the order size that has been read. -/
theorem openLong_within : heeding.Within Ready Ready (openLong bot price) := by
  intro phase ready
  refine Follows.bind (readBot_opens ready bot) fun reading reached opened => ?_
  dsimp only
  split
  · exact within_unbought (log_unbought _ _) reached opened.ready
  · next enough =>
    have placed : heeding.Stays reached
        (await (.placeOrder bot ⟨.buy, floorCents reading.bot.orderSizeUsdt⟩)) := by
      refine Follows.perform (fun heed member => ?_) (fun _ => rfl) fun _ => rfl
      obtain ⟨applied, stage, admits⟩ := opened heed member
      exact ⟨applied, _, stage, rfl, not_lt.mp enough, admits⟩
    have tried : heeding.Stays reached
        (tryOrder bot ⟨.buy, floorCents reading.bot.orderSizeUsdt⟩) := by
      refine Stays.recover (placed.bind fun filled => .done (some filled))
        fun message => ?_
      exact (stays_unread (log_unread _ _) reached).bind fun _ => .done none
    have stays : heeding.Stays reached (placeLong bot reading.bot.settings price
        (floorCents reading.bot.orderSizeUsdt)) :=
      (stays_unread (log_unread _ _) reached).bind fun _ => tried.bind fun filled =>
        stays_unread (placed_common bot price _ _ filled) reached
    refine Follows.mono stays fun result later same => ?_
    cases result with
    | ok answer => exact same ▸ opened.ready
    | error failure => exact same ▸ opened.ready

/-- What an answer leads to: nothing is left to heed where there is none, or where it refuses. -/
def Answered (answer : Option Advisory) (phase : Option Heed) : Prop :=
  phase = answer.bind fun advisory =>
    if advisory.allow then some ⟨advisory, .answered⟩ else none

theorem advise_answers (symbol : String) (sizeUsdt accountEquityUsdt : ℚ) (phase : Option Heed) :
    heeding.Follows phase (advise symbol sizeUsdt accountEquityUsdt)
      (ends Answered fun _ => False) := by
  have asked : heeding.Follows phase
      (await (.evaluateTradeIntent symbol sizeUsdt accountEquityUsdt))
      (ends (fun advisory reached => Answered (some advisory) reached) fun reached =>
        reached = none) :=
    Follows.perform trivial (fun _ => rfl) fun _ => rfl
  refine Follows.recover (Follows.bind asked fun advisory reached answered => ?_)
    fun message reached same => ?_
  · exact answered
  · exact same

variable {answer : Option Advisory} {phase : Option Heed}

/-! ### The forced first entry -/

theorem overwriteSize_readies (answered : Answered answer phase) (safeSize : ℚ) :
    heeding.Follows phase (await (.overwriteSize bot (forcedSize safeSize answer)))
      (ends (fun _ reached => Ready reached) fun _ => True) := by
  refine Follows.perform trivial (fun saved heed member => ?_) fun _ => trivial
  obtain ⟨earlier, isEarlier, rfl⟩ := Option.map_eq_some_iff.mp member
  rw [show phase = _ from answered] at isEarlier
  cases answer with
  | none => cases isEarlier
  | some advisory =>
    obtain ⟨-, isEarlier⟩ := Option.ite_none_right_eq_some.mp isEarlier
    rw [← Option.some.inj isEarlier]
    exact Advisory.admits_forcedSize safeSize

theorem forceOpen_within (answered : Answered answer phase) (safeSize : ℚ) :
    heeding.Follows phase (forceOpen bot price (forcedSize safeSize answer))
      (ends (fun _ reached => Ready reached) fun _ => True) := by
  refine Follows.bind (overwriteSize_readies bot answered safeSize)
    fun saved reached ready => ?_
  have logged {Value : Type} {next : Unit → Call Value} {kind : LogKind} {message : String}
      (tail : ∀ result, heeding.Within Ready Ready (next result)) :
      heeding.Within Ready Ready (log kind message >>= next) :=
    (within_unbought (log_unbought _ _)).bind tail
  refine ((logged fun _ => .andFinally ?_ (within_unbought (only_perform trivial))) reached
    ready).throwing fun _ _ => trivial
  refine .recover ((openLong_within bot price).bind fun _ => .done true) fun message => ?_
  exact logged fun _ => .done false

/-- After an answer that refuses, or none, an order may be opened. -/
theorem Answered.ready (answered : Answered answer phase)
    (heeded : ∀ advisory ∈ answer, advisory.allow = true → advisory.caution = false) :
    Ready phase := by
  rw [show phase = _ from answered]
  cases answer with
  | none => exact ready_none
  | some advisory =>
    intro heed member
    obtain ⟨allowed, isHeed⟩ := Option.ite_none_right_eq_some.mp member
    rw [← Option.some.inj isHeed]
    exact heeded advisory rfl allowed

theorem forceFirst_within : heeding.Within Ready (fun _ => True) (forceFirst bot price) := by
  have lose {Value : Type} {program : Call Value} (only : program.Only Unbought) :
      heeding.Within Ready (fun _ => True) program :=
    (within_unbought only).throwing fun _ _ => trivial
  have balance : usdtBalance.Only Unbought := only_recover (only_perform trivial) fun _ => trivial
  refine (lose balance).bind fun found => ?_
  cases found with
  | none => exact .done false
  | some realBal =>
    dsimp only
    split
    · refine Within.bind (lose (only_perform trivial)) fun reading => ?_
      split
      · intro phase ready
        refine Follows.bind ((advise_answers _ _ _ phase).throwing fun _ => False.elim)
          fun answer reached answered => ?_
        split
        · next refused =>
          refine (lose (log_unbought _ _)).bind (fun _ => .done true) reached (answered.ready ?_)
          intro advisory isAnswer allowed
          rw [Option.mem_def.mp isAnswer] at refused
          simp [allowed] at refused
        · exact forceOpen_within bot price answered _
      · exact (lose (log_unbought _ _)).bind fun _ => .done false
    · exact .done false

/-! ### The entry on a signal -/

/-- A caution is applied, or the order size is within it already. -/
theorem heedCaution_readies {advisory : Advisory} (cautious : advisory.caution = true) :
    heeding.Follows (some ⟨advisory, .answered⟩) (heedCaution bot advisory)
      (ends (fun _ reached => Ready reached) fun _ => True) := by
  have read : heeding.Follows (some ⟨advisory, .answered⟩) (await (.readBot bot))
      (ends (fun reading reached => reached = some ⟨advisory,
        if advisory.reducedSize < reading.bot.orderSizeUsdt then .reducing
        else .applied reading.bot.orderSizeUsdt⟩) fun _ => True) := by
    refine Follows.perform trivial (fun reading => ?_) fun _ => trivial
    show some (Heed.read ⟨advisory, .answered⟩ reading.bot.orderSizeUsdt) = _
    unfold Heed.read
    rw [if_pos cautious]
  refine Follows.bind read fun reading reached same => ?_
  rw [same]
  have positive : 0 < advisory.reducedSize := one_pos.trans_le (le_max_left _ _)
  by_cases higher : advisory.reducedSize < reading.bot.orderSizeUsdt
  · rw [if_pos higher, if_pos ⟨positive, higher⟩]
    refine Follows.bind ((stays_unread (log_unread _ _) _).throwing fun _ _ => trivial)
      fun _ later isReducing => ?_
    rw [isReducing]
    refine Follows.perform trivial (fun _ heed member => ?_) fun _ => trivial
    rw [← Option.some.inj member]
    exact Advisory.admits_reducedSize
  · rw [if_neg higher, if_neg fun both => higher both.2]
    intro heed member
    rw [← Option.some.inj member]
    exact Advisory.admits_of_le fun enough =>
      (not_lt.mp higher).trans (Advisory.reducedSize_le enough)

theorem passAdvisor_readies (reading : BotReading) (capitalUsd : ℚ) (phase : Option Heed) :
    heeding.Follows phase (passAdvisor bot reading capitalUsd)
      (ends (fun _ reached => Ready reached) fun _ => True) := by
  refine Follows.bind ((advise_answers _ _ _ phase).throwing fun _ => False.elim)
    fun answer reached answered => ?_
  cases answer with
  | none => exact answered.ready fun advisory none => by cases none
  | some advisory =>
    dsimp only
    split
    · next refused =>
      have ready : Ready reached := answered.ready fun other isAnswer allowed => by
        rw [Option.some.inj (Option.mem_def.mp isAnswer)] at refused
        exact absurd allowed refused
      refine Follows.bind (((within_unbought (log_unbought _ _)) reached ready).throwing
        fun _ _ => trivial) fun _ later holds => holds
    · next allowed =>
      split
      · next cautious =>
        have same : reached = some ⟨advisory, .answered⟩ := by
          rw [show reached = _ from answered, Option.bind_some, if_pos (not_not.mp allowed)]
        rw [same]
        exact Follows.bind (heedCaution_readies bot cautious) fun _ later holds => holds
      · next calm =>
        refine answered.ready fun other isAnswer _ => ?_
        rw [← Option.some.inj (Option.mem_def.mp isAnswer)]
        exact Bool.eq_false_iff.mpr calm

theorem execute_within (intent : Paper.Intent) :
    heeding.Within Ready Ready (execute bot price intent) := by
  cases intent with
  | buy => exact openLong_within bot price
  | sell => exact within_unbought (closePosition_unbought bot price)

theorem carryOut_within (capitalUsd : ℚ) (signal : Paper.AISignalResult) (reading : BotReading)
    (intent : Paper.Intent) : heeding.Within Ready (fun _ => True)
      (carryOut bot price capitalUsd signal reading intent) := by
  have executed : heeding.Within Ready (fun _ => True) (execute bot price intent) :=
    (execute_within bot price intent).throwing fun _ _ => trivial
  unfold carryOut
  split
  · intro phase ready
    refine Follows.bind (passAdvisor_readies bot reading capitalUsd phase)
      fun passed reached ready => ?_
    split
    · exact executed reached ready
    · exact ready
  · exact executed

end Calls

theorem heeding_walks : Walks heeding Ready where
  start := ready_none
  common := fun isCommon => ready_unbought (unbought_of_common isCommon)
  settles := fun _ _ => trivial
  opens := openLong_within
  closes := fun bot price => within_unbought (closePosition_unbought bot price)
  forces := forceFirst_within
  carries := carryOut_within

/-! ### Runs -/

theorem allowed_map (advisory : Advisory) :
    (if advisory.allow then some (Heed.mk advisory .answered) else none).map Heed.advisory =
      (some advisory).filter Advisory.allow := by
  rw [Option.filter]
  split <;> rfl

theorem phase_advisory (moment : Moment venue) (caller : ℕ) :
    (heeding.phase moment caller).map Heed.advisory =
      (latestAdvice moment caller).filter Advisory.allow := by
  unfold phase latestAdvice
  induction moment.own caller with
  | nil => rfl
  | cons event earlier inductionHypothesis =>
    obtain ⟨caller, op, fate, reply⟩ := event
    rw [List.foldr_cons]
    generalize (earlier.foldr (fun event reached => heeding.next reached event.op event.reply)
      heeding.start) = phase at inductionHypothesis ⊢
    have kept (same : (heeding.next phase op reply).map Heed.advisory = phase.map Heed.advisory)
        (silent : advice ⟨caller, op, fate, reply⟩ = none) :
        (heeding.next phase op reply).map Heed.advisory =
          ((⟨caller, op, fate, reply⟩ :: earlier).findSome? advice).join.filter Advisory.allow := by
      rw [same, inductionHypothesis, List.findSome?_cons, silent]
    cases op with
    | evaluateTradeIntent symbol sizeUsdt accountEquityUsdt =>
      cases reply with
      | ok advisory =>
        exact allowed_map advisory
      | error failure => rfl
    | readBot bot =>
      refine kept ?_ (by cases reply <;> rfl)
      cases reply <;> cases phase <;> rfl
    | overwriteSize bot size =>
      refine kept ?_ (by cases reply <;> rfl)
      cases reply <;> cases phase <;> rfl
    | reduceSize bot size =>
      refine kept ?_ (by cases reply <;> rfl)
      cases reply <;> cases phase <;> rfl
    | _ => exact kept (by cases reply <;> rfl) (by cases reply <;> rfl)

theorem bound_iff_heeded {step : Step venue}
    (permitted : heeding.permits (heeding.phase step.before step.caller) step.op) :
    Bound step ↔ Heeded step := by
  obtain ⟨before, caller, op, fate⟩ := step
  cases op with
  | placeOrder bot order =>
    obtain ⟨side, quote⟩ := order
    cases side with
    | sell => exact Iff.rfl
    | buy =>
      have answers := phase_advisory before caller
      cases isPhase : heeding.phase before caller with
      | none =>
        rw [isPhase] at answers
        refine iff_of_true (fun advisory isAdvice allowed => ?_) fun heed isHeed => ?_
        · rw [Option.filter_eq_some_iff.mpr ⟨isAdvice, allowed⟩] at answers
          cases answers
        · cases isPhase.symm.trans isHeed
      | some heed =>
        rw [isPhase] at answers
        obtain ⟨isAdvice, allowed⟩ := Option.filter_eq_some_iff.mp answers.symm
        obtain ⟨applied, found, stage, isQuote, enough, admits⟩ := permitted heed isPhase
        constructor
        · intro bound other isOther
          have within := bound heed.advisory isAdvice allowed
          obtain rfl := Option.some.inj (isPhase.symm.trans isOther)
          refine ⟨enough.trans within, fun _ again isStage => .inr ?_⟩
          obtain ⟨-, rfl⟩ := Stage.opening.inj (stage.symm.trans isStage)
          exact isQuote.symm.trans_le within
        · intro heeded advisory isLatest _
          obtain rfl := Option.some.inj (isAdvice.symm.trans isLatest)
          obtain ⟨recommended, applies⟩ := heeded heed isPhase
          rw [isQuote]
          obtain isApplied | within := applies applied found stage
          · exact admits found isApplied recommended
          · exact within
  | _ => exact Iff.rfl

/-- In a run of the live bots, every BUY after an answer that allows it is for at most the
recommended size if and only if every such answer is heeded. -/
theorem bound_iff (requests : List Request) (turns : List (Turn venue)) :
    (∀ step ∈ (liveSystem requests).steps turns, Bound step) ↔
      ∀ step ∈ (liveSystem requests).steps turns, Heeded step :=
  forall₂_congr fun step member =>
    bound_iff_heeded (heeding_walks.permitted requests turns step member)

/-! ### The advisor itself -/

/-- The fields of an advice that the bot looks at. -/
def brief (advisory : Signals.TradeAdvisory) : Advisory where
  allow := advisory.allow
  caution := advisory.decision = .caution
  recommendedSizeUsdt := advisory.recommendedSizeUsdt

/-- The advisor answers out of a snapshot and a history, or fails. -/
def Consults (fate : (op : Op) → Fate op) : Prop :=
  ∀ symbol sizeUsdt accountEquityUsdt,
    (∃ message, fate (.evaluateTradeIntent symbol sizeUsdt accountEquityUsdt) = .error message) ∨
    ∃ env userId snapshot history now,
      fate (.evaluateTradeIntent symbol sizeUsdt accountEquityUsdt) =
        .ok (brief (Signals.evaluateTradeIntent env
          ⟨userId, symbol, .buy, sizeUsdt, some accountEquityUsdt⟩ snapshot history now))

def hundredUsdt : BotSettings := ⟨"BTC/USDT", "BTCUSDT", 100⟩

/-- The balance cannot be read; all providers say to buy, and nothing speaks against it. -/
def agreed : (op : Op) → Fate op
  | .fetchBinanceUsdtBalance => none
  | .evaluateTradeIntent symbol sizeUsdt accountEquityUsdt =>
    .ok (brief (Signals.evaluateTradeIntent ⟨true, none⟩
      ⟨"alice", symbol, .buy, sizeUsdt, some accountEquityUsdt⟩ ⟨8, ⟨.buy, 1⟩, none, [], 6 / 100⟩
      (some []) 0))
  | op => fine op

/-- Of the 100 that are asked about, 60 are recommended to an equity of 1000. The answer says ok,
and the BUY is for 100. -/
theorem not_bound : ¬ ∀ (requests : List Request) (turns : List (Turn venue)),
    (∀ turn ∈ turns, Consults turn.fate) →
      ∀ step ∈ (liveSystem requests).steps turns, Bound step := by
  intro claimed
  have consults : ∀ turn ∈ turnsOf 0 7 priceless ++ turnsOf 1 25 agreed, Consults turn.fate := by
    intro turn member
    obtain early | late := List.mem_append.mp member
    · rw [List.eq_of_mem_replicate early]
      exact fun symbol sizeUsdt accountEquityUsdt => .inl ⟨"unavailable", rfl⟩
    · rw [List.eq_of_mem_replicate late]
      exact fun symbol sizeUsdt accountEquityUsdt => .inr ⟨_, _, _, _, _, rfl⟩
  have bound := claimed [.start hundredUsdt, .interval 0] _ consults
  exact absurd bound (by decide +kernel)

end GdslExchange.Live
