/-
This file settles when the candle store has no holes: a store that has none at the start,
a first page that is not cut short by the bar in progress, and writes of the refresh, the
websocket and first pages that follow on what is stored.

The job itself leaves no hole: it goes back from the oldest bar and on from the newest one.
But it looks at no other, so what the other writers leave behind an insert of theirs, or
what was missing before, is never asked for again; and a first page has 999 closed bars,
which reads as the start of the listing.
-/

import GdslExchange.Market.Walk

namespace GdslExchange.Market

open Async Async.Program

/-! ### What a run should keep -/

variable (interval : Interval)

/-- Between a stored bar within the target, or a listing, and the newest one all are stored. -/
def Desk.Full (desk : Desk) : Prop :=
  ∀ newest ∈ desk.store, ∀ bar, desk.listing ≤ bar → desk.now ≤ bar + interval.targetBars →
    bar ≤ newest → bar ∈ desk.store

/-- After a step the store has no holes once the job is completed. -/
def Sound (step : Step feed) : Prop :=
  step.after.state.completed = true → step.after.state.Full interval

/-- Between two stored bars all are stored that are within the target. -/
def Desk.NoHole (desk : Desk) : Prop :=
  ∀ first ∈ desk.store, ∀ last ∈ desk.store, ∀ bar, first ≤ bar → bar ≤ last →
    desk.now ≤ bar + interval.targetBars → bar ∈ desk.store

def Desk.Reaches (desk : Desk) (bar : ℕ) : Prop :=
  bar = desk.listing ∨ bar + interval.targetBars ≤ desk.now

/-- The bars follow on a stored one, before or after it. -/
def Desk.Touches (desk : Desk) (bars : List ℕ) : Prop :=
  ∃ bar ∈ desk.store, ∀ first ∈ bars.head?, first ≤ bar + 1 ∧ bar ≤ first + bars.length

/-- Some call has walked back. -/
def SomeDeep (moment : Moment feed) : Prop :=
  ∃ event ∈ moment.log, ((lane interval).phase moment event.caller).Deep

/-- The page of a call follows on the oldest or the newest bar that it has read. -/
def Phase.Anchored : Phase → Prop
  | inHand course _ => course.anchor.isSome
  | _ => False

/-- A first page that has fewer than 1000 closed bars reaches the listing or the target. What is
written by the refresh, the websocket or as a first page follows on what is stored; where nothing
is stored, it reaches the listing or the target if a walk back has ended. -/
def Orderly (step : Step feed) : Prop :=
  let desk := step.before.state
  match step.op with
  | .clock =>
    match (lane interval).phase step.before step.caller with
    | .fetched (.first _) raw =>
      let bars := raw.filter fun bar => bar < desk.now
      bars.length < 1000 → ∀ first ∈ bars.head?, desk.Reaches interval first
    | _ => True
  | .createMany bars => Delivery.Applies step.fate →
    if desk.store = [] then SomeDeep interval step.before →
      ∀ first ∈ bars.head?, desk.Reaches interval first
    else ((lane interval).phase step.before step.caller).Anchored ∨ desk.Touches bars
  | _ => True

/-! ### The invariant -/

/-- What is stored reaches the listing or the target. -/
def Desk.DeepStore (desk : Desk) : Prop :=
  desk.store = [] ∨ ∃ bar ∈ desk.store, desk.Reaches interval bar

/-- Time has passed and bars have been stored. -/
structure Desk.Later (desk later : Desk) : Prop where
  listing : later.listing = desk.listing
  now : desk.now ≤ later.now
  store : ∀ bar ∈ desk.store, bar ∈ later.store

/-- What the job knows when it asks for a page. -/
def Course.Holds (desk : Desk) : Course → Prop
  | first began => began ≤ desk.now
  | back began pages oldest =>
    began ≤ desk.now ∧ oldest ∈ desk.store ∧ oldest + 1000 * pages ≤ desk.now
  | seed => desk.DeepStore interval
  | on newest => newest ∈ desk.store ∧ desk.DeepStore interval
  | other => True

/-- Where the bars of an answer begin, and before which one they end. -/
def Course.Spans (listing : ℕ) (course : Course) (start stop : ℕ) : Prop :=
  match course with
  | back _ _ oldest => stop = oldest ∧ start = max listing (oldest - 1000)
  | on newest => start = newest + 1
  | _ => True

/-- A first page begins with the listing unless it is full, and has the bar in progress. -/
def Course.Opens (listing : ℕ) (course : Course) (start stop : ℕ) : Prop :=
  match course with
  | first _ => start = max listing (stop - 1000) ∧ listing < stop
  | _ => True

/-- A page that has come. -/
def Course.Answered (desk : Desk) (course : Course) (raw : List ℕ) : Prop :=
  ∃ start stop, raw = List.Ico start stop ∧ desk.listing ≤ start ∧ stop ≤ desk.now + 1 ∧
    course.Spans desk.listing start stop ∧ course.Opens desk.listing start stop

/-- A page of closed bars; a first page is long or reaches the listing or the target. -/
def Course.Landed (desk : Desk) (course : Course) (bars : List ℕ) : Prop :=
  ∃ start stop, bars = List.Ico start stop ∧ start < stop ∧ desk.listing ≤ start ∧
    stop ≤ desk.now ∧ course.Spans desk.listing start stop ∧
      ((∃ began, course = .first began) → stop - start < 1000 → desk.Reaches interval start)

def Phase.Holds (desk : Desk) : Phase → Prop
  | idle => True
  | dated now => now ≤ desk.now
  | going course => course.Holds interval desk
  | fetched course raw => course.Holds interval desk ∧ course.Answered desk raw
  | inHand course bars => course.Holds interval desk ∧ course.Landed interval desk bars
  | walked => desk.DeepStore interval
  | done => desk.DeepStore interval

/-- What the desk keeps in an orderly run. -/
structure Desk.Proper (desk : Desk) : Prop where
  listed : desk.listing ≤ desk.now
  closed : ∀ bar ∈ desk.store, desk.listing ≤ bar ∧ bar < desk.now
  noHole : desk.NoHole interval

structure Kept (moment : Moment feed) : Prop where
  proper : moment.state.Proper interval
  finished : moment.state.completed = true →
    ∃ caller, (lane interval).phase moment caller = .done
  holds : ∀ caller, ((lane interval).phase moment caller).Holds interval moment.state

variable {interval}

section Later

variable {desk after : Desk} (isLater : desk.Later after)

include isLater

theorem Desk.Reaches.later {bar : ℕ} (reaches : desk.Reaches interval bar) :
    after.Reaches interval bar := by
  have listing := isLater.listing
  have now := isLater.now
  unfold Desk.Reaches at *
  omega

/-- A store that is deep stays so, unless bars are put into an empty one. -/
theorem Desk.DeepStore.later (deep : desk.DeepStore interval)
    (same : desk.store = [] → after.store = [] ∨ ∃ bar ∈ after.store, after.Reaches interval bar) :
    after.DeepStore interval := by
  rcases deep with none_ | ⟨bar, member, reaches⟩
  · exact same none_
  · exact Or.inr ⟨bar, isLater.store bar member, reaches.later isLater⟩

theorem Course.Holds.later {course : Course} (holds : course.Holds interval desk)
    (deepens : course.Syncs → desk.DeepStore interval → after.DeepStore interval) :
    course.Holds interval after := by
  have now := isLater.now
  cases course with
  | first began => exact le_trans holds now
  | back began pages oldest =>
    obtain ⟨past, member, far⟩ := holds
    exact ⟨past.trans now, isLater.store oldest member, far.trans now⟩
  | seed => exact deepens trivial holds
  | on newest => exact ⟨isLater.store newest holds.1, deepens trivial holds.2⟩
  | other => trivial

theorem Phase.Holds.later {phase : Phase} (holds : phase.Holds interval desk)
    (deepens : phase.Deep → desk.DeepStore interval → after.DeepStore interval) :
    phase.Holds interval after := by
  have now := isLater.now
  cases phase with
  | idle => trivial
  | dated began => exact le_trans holds now
  | going course => exact Course.Holds.later isLater holds deepens
  | fetched course raw =>
    obtain ⟨known, start, stop, isRaw, listed, bounded, spans⟩ := holds
    refine ⟨known.later isLater deepens, start, stop, isRaw, ?_, ?_, ?_⟩
    · rw [isLater.listing]
      exact listed
    · exact bounded.trans (Nat.succ_le_succ now)
    · rw [isLater.listing]
      exact spans
  | inHand course bars =>
    obtain ⟨known, start, stop, isBars, some_, listed, bounded, spans, first⟩ := holds
    refine ⟨known.later isLater deepens, start, stop, isBars, some_, ?_, bounded.trans now, ?_,
      fun isFirst short => (first isFirst short).later isLater⟩
    · rw [isLater.listing]
      exact listed
    · rw [isLater.listing]
      exact spans
  | walked => exact deepens trivial holds
  | done => exact deepens trivial holds

end Later

theorem deepStore_of_deep {desk : Desk} {phase : Phase} (holds : phase.Holds interval desk)
    (deep : phase.Deep) : desk.DeepStore interval := by
  have ofCourse (course : Course) (syncs : course.Syncs) (known : course.Holds interval desk) :
      desk.DeepStore interval := by
    cases course with
    | seed => exact known
    | on newest => exact known.2
    | _ => exact syncs.elim
  cases phase with
  | going course => exact ofCourse course deep holds
  | fetched course raw => exact ofCourse course deep holds.1
  | inHand course bars => exact ofCourse course deep holds.1
  | walked => exact holds
  | done => exact holds
  | _ => exact deep.elim

/-! ### Bars that are put in -/

theorem mem_insert (desk : Desk) (bars : List ℕ) (bar : ℕ) :
    bar ∈ (desk.insert bars).store ↔ bar ∈ desk.store ∨ bar ∈ bars := by
  show bar ∈ desk.store ++ bars.filter _ ↔ _
  rw [List.mem_append, List.mem_filter, decide_eq_true_eq]
  tauto

theorem later_insert (desk : Desk) (bars : List ℕ) : desk.Later (desk.insert bars) :=
  ⟨rfl, le_rfl, fun bar member => (mem_insert desk bars bar).mpr (Or.inl member)⟩

variable {start stop : ℕ}

theorem head?_Ico (some_ : start < stop) :
    (List.Ico start stop).head? = some start := by
  rw [List.Ico.eq_cons some_]
  rfl

theorem touches_Ico {desk : Desk} (some_ : start < stop) :
    desk.Touches (List.Ico start stop) ↔ ∃ bar ∈ desk.store, start ≤ bar + 1 ∧ bar ≤ stop := by
  unfold Desk.Touches
  rw [head?_Ico some_, List.Ico.length]
  refine exists_congr fun bar => and_congr_right fun _ => ?_
  simp only [Option.mem_def, Option.some.injEq, forall_eq']
  omega

theorem noHole_insert {desk : Desk} (noHole : desk.NoHole interval)
    (touches : desk.store = [] ∨ ∃ bar ∈ desk.store, start ≤ bar + 1 ∧ bar ≤ stop) :
    (desk.insert (List.Ico start stop)).NoHole interval := by
  intro first isFirst last isLast bar above below recent
  rw [mem_insert, List.Ico.mem] at isFirst isLast ⊢
  rcases touches with none_ | ⟨anchor, stored, before, after⟩
  · rw [none_] at isFirst isLast
    simp only [List.not_mem_nil, false_or] at isFirst isLast
    exact Or.inr (by omega)
  by_cases inside : start ≤ bar ∧ bar < stop
  · exact Or.inr inside
  refine Or.inl ?_
  -- Outside of the new bars, a stored one lies on either side: an end or the anchor.
  by_cases low : bar ≤ anchor
  · rcases isFirst with isOld | isNew
    · exact noHole first isOld anchor stored bar above low recent
    · have isAnchor : bar = anchor := by omega
      rw [isAnchor]
      exact stored
  · rcases isLast with isOld | isNew
    · exact noHole anchor stored last isOld bar (by omega) below recent
    · exact absurd inside (by omega)

theorem full_of_deepStore {desk : Desk} (noHole : desk.NoHole interval)
    (deep : desk.DeepStore interval) : desk.Full interval := by
  intro newest isNewest bar listed recent below
  rcases deep with none_ | ⟨first, isFirst, reaches⟩
  · rw [none_] at isNewest
    cases isNewest
  · refine noHole first isFirst newest isNewest bar ?_ below recent
    unfold Desk.Reaches at reaches
    omega

/-! ### Steps -/

theorem Desk.Later.refl (desk : Desk) : desk.Later desk := ⟨rfl, le_rfl, fun _ member => member⟩

theorem later_step (step : Step feed) : step.before.state.Later step.after.state := by
  obtain ⟨before, caller, op, fate⟩ := step
  cases op with
  | createMany bars =>
    show before.state.Later (if fate.Applies then before.state.insert bars else before.state)
    split
    · exact later_insert before.state bars
    · exact .refl before.state
  | elapse => exact ⟨rfl, Nat.le_succ _, fun _ member => member⟩
  | _ => exact ⟨rfl, le_rfl, fun _ member => member⟩

/-- Whoever has walked back has been heard of. -/
theorem someDeep_of_deep {moment : Moment feed} {caller : ℕ}
    (deep : ((lane interval).phase moment caller).Deep) : SomeDeep interval moment := by
  by_contra none_
  have silent : ∀ event ∈ moment.log, event.caller ≠ caller := by
    intro event member same
    exact none_ ⟨event, member, by rw [same]; exact deep⟩
  rw [Protocol.phase_of_silent silent] at deep
  exact deep

/-- A page that is anchored follows on what is stored. -/
theorem touches_of_anchored {desk : Desk} {course : Course} (known : course.Holds interval desk)
    (spans : course.Spans desk.listing start stop) (some_ : start < stop)
    (listed : ∀ bar ∈ desk.store, desk.listing ≤ bar) (anchored : course.anchor.isSome) :
    ∃ bar ∈ desk.store, start ≤ bar + 1 ∧ bar ≤ stop := by
  cases course with
  | back began pages oldest =>
    obtain ⟨isStop, isStart⟩ := spans
    have above := listed oldest known.2.1
    exact ⟨oldest, known.2.1, by omega, by omega⟩
  | on newest =>
    have isStart : start = newest + 1 := spans
    exact ⟨newest, known.1, by omega, by omega⟩
  | _ => cases anchored

section Write

variable {before : Moment feed} {caller : ℕ} {bars : List ℕ} {fate : Delivery}
  (kept : Kept interval before) {course : Course}
  (isInHand : (lane interval).phase before caller = .inHand course bars)
  (orderly : Orderly interval ⟨before, caller, .createMany bars, fate⟩) (applies : fate.Applies)

include kept isInHand

/-- What is known of bars that are about to be written. -/
theorem landed_of_inHand : course.Holds interval before.state ∧
    course.Landed interval before.state bars := by
  have holds := kept.holds caller
  rw [isInHand] at holds
  exact holds

include orderly applies

theorem proper_insert : (before.state.insert bars).Proper interval := by
  obtain ⟨known, start, stop, isBars, some_, listed, bounded, spans, -⟩ :=
    landed_of_inHand kept isInHand
  refine ⟨kept.proper.listed, fun bar member => ?_, ?_⟩
  · rcases (mem_insert _ _ _).mp member with isOld | isNew
    · exact kept.proper.closed bar isOld
    · rw [isBars, List.Ico.mem] at isNew
      exact ⟨listed.trans isNew.1, isNew.2.trans_le bounded⟩
  · rw [isBars]
    refine noHole_insert kept.proper.noHole ?_
    by_cases none_ : before.state.store = []
    · exact Or.inl none_
    refine Or.inr ?_
    have follows : ((lane interval).phase before caller).Anchored ∨ before.state.Touches bars := by
      have fits := orderly applies
      rw [if_neg none_] at fits
      exact fits
    rcases follows with anchored | touches
    · rw [isInHand] at anchored
      exact touches_of_anchored known spans some_
        (fun bar member => (kept.proper.closed bar member).1) anchored
    · rw [isBars] at touches
      exact (touches_Ico some_).mp touches

theorem deepStore_insert (deep : SomeDeep interval before)
    (isDeep : before.state.DeepStore interval) :
    (before.state.insert bars).DeepStore interval := by
  refine isDeep.later (later_insert _ _) fun none_ => Or.inr ?_
  obtain ⟨-, start, stop, isBars, some_, -, -, -, -⟩ := landed_of_inHand kept isInHand
  have reaches := orderly applies
  rw [if_pos none_] at reaches
  refine ⟨start, (mem_insert _ _ _).mpr (Or.inr ?_), reaches deep start ?_⟩
  · rw [isBars, List.Ico.mem]
    exact ⟨le_rfl, some_⟩
  · rw [isBars]
    exact head?_Ico some_

end Write

section Steps

variable {step : Step feed} (kept : Kept interval step.before)
  (permitted : (lane interval).permits ((lane interval).phase step.before step.caller) step.op)
  (orderly : Orderly interval step)

include kept permitted orderly

theorem proper_step : step.after.state.Proper interval := by
  obtain ⟨before, caller, op, fate⟩ := step
  have proper := kept.proper
  cases op with
  | createMany bars =>
    obtain ⟨course, isInHand⟩ := permitted
    show Desk.Proper interval (if fate.Applies then before.state.insert bars else before.state)
    split
    next applies => exact proper_insert kept isInHand orderly applies
    next => exact proper
  | elapse =>
    refine ⟨proper.listed.trans (Nat.le_succ _), fun bar member => ?_, ?_⟩
    · obtain ⟨listed, past⟩ := proper.closed bar member
      exact ⟨listed, past.trans (Nat.lt_succ_self _)⟩
    · intro first isFirst last isLast bar above below recent
      exact proper.noHole first isFirst last isLast bar above below
        ((Nat.le_succ _).trans recent)
  | _ => exact ⟨proper.listed, proper.closed, proper.noHole⟩

theorem deepStore_step (deep : SomeDeep interval step.before)
    (isDeep : step.before.state.DeepStore interval) :
    step.after.state.DeepStore interval := by
  obtain ⟨before, caller, op, fate⟩ := step
  cases op with
  | createMany bars =>
    obtain ⟨course, isInHand⟩ := permitted
    show Desk.DeepStore interval (if fate.Applies then before.state.insert bars else before.state)
    split
    next applies => exact deepStore_insert kept isInHand orderly applies deep isDeep
    next => exact isDeep
  | elapse =>
    have isLater := later_step ⟨before, caller, .elapse, fate⟩
    exact isDeep.later isLater fun none_ => Or.inl none_
  | _ => exact isDeep

theorem holds_after (other : ℕ) :
    ((lane interval).phase step.before other).Holds interval step.after.state :=
  (kept.holds other).later (later_step step) fun deep isDeep =>
    deepStore_step kept permitted orderly (someDeep_of_deep deep) isDeep

end Steps

/-! ### Answers -/

/-- Operations that leave their caller where it stands. -/
def Plain : Op → Prop
  | .begin => True
  | .buildBackfillQueue => True
  | .finish => True
  | .isCompleted => True
  | .elapse => True
  | _ => False

theorem next_plain {op : Op} (plain : Plain op) (phase : Phase)
    (reply : Except String (Result op)) : (lane interval).next phase op reply = phase := by
  cases op <;> first | exact plain.elim | (cases phase <;> cases reply <;> rfl)

theorem targetBars_le (interval : Interval) : interval.targetBars ≤ 40000 := by
  cases interval <;> decide

/-- What the exchange answers to a page of the job. -/
theorem answered_fetch {desk : Desk} (proper : desk.Proper interval) {course : Course}
    (known : course.Holds interval desk) {limit : ℕ}
    (isLimit : limit = 1000 ∨ ∃ newest, course = .on newest) :
    course.Answered desk (desk.answer limit course.range) := by
  have listed := proper.listed
  cases course with
  | first began =>
    have isPage : limit = 1000 := isLimit.resolve_right nofun
    rw [isPage]
    exact ⟨_, _, rfl, le_max_left _ _, le_rfl, trivial, rfl, Nat.lt_succ_of_le listed⟩
  | back began pages oldest =>
    have past := (proper.closed oldest known.2.1).2
    have isPage : limit = 1000 := isLimit.resolve_right nofun
    have isTop : min oldest (desk.now + 1) = oldest := min_eq_left (by omega)
    refine ⟨max desk.listing (oldest - 1000), oldest, ?_, le_max_left _ _, by omega, ⟨rfl, rfl⟩,
      trivial⟩
    show List.Ico (max desk.listing (min oldest (desk.now + 1) - limit))
      (min oldest (desk.now + 1)) = _
    rw [isTop, isPage]
  | on newest =>
    have above := (proper.closed newest known.1).1
    have isFirst : max desk.listing (newest + 1) = newest + 1 := max_eq_right (by omega)
    refine ⟨newest + 1, min (desk.now + 1) (newest + 1 + limit), ?_, by omega,
      min_le_left _ _, rfl, trivial⟩
    show List.Ico (max desk.listing (newest + 1))
      (min (desk.now + 1) (max desk.listing (newest + 1) + limit)) = _
    rw [isFirst]
  | _ => exact ⟨_, _, rfl, le_max_left _ _, le_rfl, trivial, trivial⟩

/-- An answer without a closed bar comes when there is none before the bars that are stored. -/
theorem deepStore_of_nil {desk : Desk} (proper : desk.Proper interval) {course : Course}
    {raw : List ℕ} (known : course.Holds interval desk) (answered : course.Answered desk raw)
    (none_ : raw.filter (fun bar => bar < desk.now) = []) (isJob : course ≠ .other) :
    desk.DeepStore interval := by
  obtain ⟨start, stop, isRaw, listed, bounded, spans, opens⟩ := answered
  have isFiltered : raw.filter (fun bar => bar < desk.now) =
      List.Ico start (min stop desk.now) := by
    rw [isRaw]
    exact List.Ico.filter_lt start stop desk.now
  have isEmpty : min stop desk.now ≤ start := by
    rw [isFiltered] at none_
    exact List.Ico.eq_empty_iff.mp none_
  cases course with
  | first began =>
    obtain ⟨isStart, isListed⟩ := opens
    have unclosed : desk.now = desk.listing := by
      have past := proper.listed
      omega
    refine Or.inl (List.eq_nil_iff_forall_not_mem.mpr fun bar member => ?_)
    obtain ⟨above, below⟩ := proper.closed bar member
    omega
  | back began pages oldest =>
    obtain ⟨isStop, isStart⟩ := spans
    obtain ⟨above, below⟩ := proper.closed oldest known.2.1
    exact Or.inr ⟨oldest, known.2.1, Or.inl (by omega)⟩
  | seed => exact known
  | on newest => exact known.2
  | other => exact absurd rfl isJob

theorem landed_filter {desk : Desk} (proper : desk.Proper interval) {course : Course}
    {raw : List ℕ} (known : course.Holds interval desk) (answered : course.Answered desk raw)
    (some_ : raw.filter (fun bar => bar < desk.now) ≠ [])
    (first : (∃ began, course = .first began) →
      (raw.filter fun bar => bar < desk.now).length < 1000 →
        ∀ bar ∈ (raw.filter fun bar => bar < desk.now).head?, desk.Reaches interval bar) :
    course.Landed interval desk (raw.filter fun bar => bar < desk.now) := by
  obtain ⟨start, stop, isRaw, listed, bounded, spans, -⟩ := answered
  have isFiltered : raw.filter (fun bar => bar < desk.now) =
      List.Ico start (min stop desk.now) := by
    rw [isRaw]
    exact List.Ico.filter_lt start stop desk.now
  rw [isFiltered] at some_ first ⊢
  have nonempty : start < min stop desk.now := by
    by_contra none_
    exact some_ (List.Ico.eq_nil_of_le (not_lt.mp none_))
  refine ⟨start, min stop desk.now, rfl, nonempty, listed, min_le_right _ _, ?_,
    fun isFirst short => ?_⟩
  · cases course with
    | back began pages oldest =>
      have past := (proper.closed oldest known.2.1).2
      obtain ⟨isStop, isStart⟩ := spans
      exact ⟨by omega, isStart⟩
    | _ => exact spans
  · rw [List.Ico.length] at first
    exact first isFirst short start (head?_Ico nonempty)

/-- Where the walk back goes from a page of which it knows as much as of the bars before. -/
theorem holds_walkOn {desk : Desk} {began pages : ℕ} (past : began ≤ desk.now)
    (some_ : start < stop) (stored : start ∈ desk.store)
    (short : stop - start < 1000 → desk.Reaches interval start)
    (far : ¬ stop - start < 1000 → start + 1000 * pages ≤ desk.now) :
    (walkOn interval.targetBars began pages (List.Ico start stop)).Holds interval desk := by
  have target := targetBars_le interval
  have length : (start :: List.Ico (start + 1) stop).length = stop - start := by
    rw [← List.Ico.eq_cons some_, List.Ico.length]
  rw [List.Ico.eq_cons some_]
  have deep (reaches : desk.Reaches interval start) : desk.DeepStore interval :=
    Or.inr ⟨start, stored, reaches⟩
  by_cases isShort : stop - start < 1000
  · rw [walkOn_walked (Or.inl (length.trans_lt isShort))]
    exact deep (short isShort)
  have isFar := far isShort
  by_cases isDeep : start + interval.targetBars ≤ began
  · rw [walkOn_walked (Or.inr (Or.inl isDeep))]
    exact deep (Or.inr (isDeep.trans past))
  by_cases last : pages = 40
  · rw [walkOn_walked (Or.inr (Or.inr last))]
    exact deep (Or.inr (by omega))
  · rw [walkOn_going (by rw [length]; exact isShort) isDeep last]
    exact ⟨past, stored, isFar⟩

/-- Where a page leads that has been written. -/
theorem holds_written {desk : Desk} (proper : desk.Proper interval) {course : Course}
    {bars : List ℕ} (known : course.Holds interval desk)
    (landed : course.Landed interval desk bars) (stored : ∀ bar ∈ bars, bar ∈ desk.store) :
    (course.written interval.targetBars bars).Holds interval desk := by
  obtain ⟨start, stop, isBars, some_, listed, bounded, spans, first⟩ := landed
  have isStored : start ∈ desk.store := by
    refine stored start ?_
    rw [isBars, List.Ico.mem]
    exact ⟨le_rfl, some_⟩
  cases course with
  | first began =>
    rw [isBars]
    exact holds_walkOn known some_ isStored (first ⟨began, rfl⟩) (by omega)
  | back began pages oldest =>
    obtain ⟨isStop, isStart⟩ := spans
    obtain ⟨past, member, far⟩ := known
    rw [isBars]
    refine holds_walkOn past some_ isStored (fun short => Or.inl ?_) (by omega)
    have above := (proper.closed oldest member).1
    omega
  | seed => exact known
  | on newest => exact known.2
  | other => trivial

/-- A call that has completed the job stays where it is. -/
theorem next_done {op : Op} (permits : (lane interval).permits .done op)
    (reply : Except String (Result op)) : (lane interval).next .done op reply = .done := by
  cases op with
  | findOldest =>
    obtain ⟨began, isDated⟩ := permits
    cases isDated
  | findNewest => cases permits
  | fetch range limit =>
    rcases permits with ⟨isIdle, -⟩ | ⟨course, isGoing, -⟩
    · cases isIdle
    · cases isGoing
  | createMany bars =>
    obtain ⟨course, isInHand⟩ := permits
    cases isInHand
  | receive bar => cases permits
  | _ => cases reply <;> rfl

/-! ### What a caller knows once it is answered -/

section Answers

variable {before : Moment feed} {caller : ℕ} (kept : Kept interval before)

include kept

theorem holds_findOldest (fate : Delivery)
    (permitted : (lane interval).permits ((lane interval).phase before caller) .findOldest) :
    ((lane interval).next ((lane interval).phase before caller) .findOldest
      (Step.mk before caller .findOldest fate).reply).Holds interval
      (Step.mk before caller .findOldest fate).after.state := by
  have holds := kept.holds caller
  have current := kept.proper
  obtain ⟨began, isDated⟩ := permitted
  have isDated : (lane interval).phase before caller = .dated began := isDated
  rw [isDated] at holds
  show ((lane interval).next ((lane interval).phase before caller) .findOldest _).Holds interval
    before.state
  rw [isDated]
  cases delivery : (fate : Delivery) with
  | answered =>
    subst delivery
    show Phase.Holds interval before.state (match before.state.store.min? with
      | none => .going (.first began)
      | some bar =>
        if bar + interval.targetBars ≤ began then .walked else .going (.back began 0 bar))
    cases isOldest : before.state.store.min? with
    | none => exact holds
    | some bar =>
      have member : bar ∈ before.state.store := List.min?_mem isOldest
      show Phase.Holds interval before.state (if _ then _ else _)
      split
      next deep => exact Or.inr ⟨bar, member, Or.inr (deep.trans holds)⟩
      next => exact ⟨holds, member, (current.closed bar member).2.le⟩
  | _ =>
    subst delivery
    trivial

theorem holds_findNewest (fate : Delivery)
    (permitted : (lane interval).permits ((lane interval).phase before caller) .findNewest) :
    ((lane interval).next ((lane interval).phase before caller) .findNewest
      (Step.mk before caller .findNewest fate).reply).Holds interval
      (Step.mk before caller .findNewest fate).after.state := by
  have holds := kept.holds caller
  have isWalked : (lane interval).phase before caller = .walked := permitted
  rw [isWalked] at holds
  show ((lane interval).next ((lane interval).phase before caller) .findNewest _).Holds interval
    before.state
  rw [isWalked]
  cases delivery : (fate : Delivery) with
  | answered =>
    subst delivery
    show Phase.Holds interval before.state
      (.going ((before.state.store.max?.map Course.on).getD .seed))
    cases isNewest : before.state.store.max? with
    | none => exact holds
    | some bar => exact ⟨List.max?_mem isNewest, holds⟩
  | _ =>
    subst delivery
    trivial

theorem holds_clock (fate : feed.Fate .clock)
    (orderly : Orderly interval (Step.mk before caller .clock fate)) :
    ((lane interval).next ((lane interval).phase before caller) .clock
      (Step.mk before caller .clock fate).reply).Holds interval
      (Step.mk before caller .clock fate).after.state := by
  have holds := kept.holds caller
  have current := kept.proper
  have fits : match (lane interval).phase before caller with
    | .fetched (.first _) raw =>
      (raw.filter fun bar => bar < before.state.now).length < 1000 →
        ∀ first ∈ (raw.filter fun bar => bar < before.state.now).head?,
          before.state.Reaches interval first
    | _ => True := orderly
  show ((lane interval).next ((lane interval).phase before caller) .clock
    (.ok before.state.now)).Holds interval before.state
  cases isPhase : (lane interval).phase before caller with
  | idle => exact le_rfl
  | fetched course raw =>
    rw [isPhase] at holds fits
    obtain ⟨known, answered⟩ := holds
    show Phase.Holds interval before.state (course.landed _)
    unfold Course.landed
    split
    next none_ =>
      have deep := deepStore_of_nil current known answered none_
      cases course with
      | other => trivial
      | _ => exact deep nofun
    next some_ =>
      refine ⟨known, landed_filter current known answered some_ fun isFirst => ?_⟩
      obtain ⟨began, rfl⟩ := isFirst
      exact fits
  | _ =>
    rw [isPhase] at holds
    exact holds

theorem holds_fetch {range : Range} {limit : ℕ} (fate : Delivery)
    (permitted :
      (lane interval).permits ((lane interval).phase before caller) (.fetch range limit)) :
    ((lane interval).next ((lane interval).phase before caller) (.fetch range limit)
      (Step.mk before caller (.fetch range limit) fate).reply).Holds interval
      (Step.mk before caller (.fetch range limit) fate).after.state := by
  have holds := kept.holds caller
  have current := kept.proper
  show ((lane interval).next ((lane interval).phase before caller) (.fetch range limit) _).Holds
    interval before.state
  rcases permitted with ⟨isIdle, isLatest⟩ | ⟨course, isGoing, isRange, isLimit⟩
  · have isIdle : (lane interval).phase before caller = .idle := isIdle
    rw [isIdle, isLatest]
    cases delivery : (fate : Delivery) with
    | answered =>
      subst delivery
      exact ⟨trivial, _, _, rfl, le_max_left _ _, le_rfl, trivial, trivial⟩
    | _ =>
      subst delivery
      trivial
  · have isGoing : (lane interval).phase before caller = .going course := isGoing
    rw [isGoing] at holds
    rw [isGoing, isRange]
    cases delivery : (fate : Delivery) with
    | answered =>
      subst delivery
      exact ⟨holds, answered_fetch current holds isLimit⟩
    | _ =>
      subst delivery
      trivial

theorem holds_createMany {bars : List ℕ} (fate : Delivery)
    (permitted : (lane interval).permits ((lane interval).phase before caller) (.createMany bars))
    (orderly : Orderly interval (Step.mk before caller (.createMany bars) fate)) :
    ((lane interval).next ((lane interval).phase before caller) (.createMany bars)
      (Step.mk before caller (.createMany bars) fate).reply).Holds interval
      (Step.mk before caller (.createMany bars) fate).after.state := by
  have same := holds_after kept permitted orderly caller
  have proper := proper_step kept permitted orderly
  obtain ⟨course, isInHand⟩ := permitted
  have isInHand : (lane interval).phase before caller = .inHand course bars := isInHand
  cases delivery : (fate : Delivery) with
  | answered =>
    subst delivery
    obtain ⟨known, landed⟩ : course.Holds interval (before.state.insert bars) ∧
        course.Landed interval (before.state.insert bars) bars := by
      have later : ((lane interval).phase before caller).Holds interval
        (before.state.insert bars) := same
      rw [isInHand] at later
      exact later
    show ((lane interval).next ((lane interval).phase before caller) (.createMany bars)
      (.ok _)).Holds interval (before.state.insert bars)
    rw [isInHand]
    exact holds_written proper known landed fun bar member =>
      (mem_insert _ _ _).mpr (Or.inr member)
  | _ =>
    subst delivery
    show ((lane interval).next ((lane interval).phase before caller) (.createMany bars)
      (.error _)).Holds interval _
    rw [isInHand]
    trivial

omit kept in
theorem holds_receive {bar : ℕ} (fate : feed.Fate (.receive bar))
    (permitted : (lane interval).permits ((lane interval).phase before caller) (.receive bar)) :
    ((lane interval).next ((lane interval).phase before caller) (.receive bar)
      (Step.mk before caller (.receive bar) fate).reply).Holds interval
      (Step.mk before caller (.receive bar) fate).after.state := by
  have isIdle : (lane interval).phase before caller = .idle := permitted
  show ((lane interval).next ((lane interval).phase before caller) (.receive bar) _).Holds
    interval before.state
  rw [isIdle]
  show Phase.Holds interval before.state (if decide (_ ∧ _) = true then .inHand .other [bar]
    else .idle)
  split
  next isClosed =>
    obtain ⟨listed, past⟩ := of_decide_eq_true isClosed
    refine ⟨trivial, bar, bar + 1, List.Ico.succ_singleton.symm, Nat.lt_succ_self bar, listed,
      past, trivial, nofun⟩
  next => trivial

theorem holds_complete (fate : feed.Fate .complete)
    (permitted : (lane interval).permits ((lane interval).phase before caller) .complete) :
    ((lane interval).next ((lane interval).phase before caller) .complete
      (Step.mk before caller .complete fate).reply).Holds interval
      (Step.mk before caller .complete fate).after.state := by
  have isDone (phase : Phase) :
      (lane interval).next phase .complete (.ok ()) = .done := by cases phase <;> rfl
  show ((lane interval).next ((lane interval).phase before caller) .complete (.ok ())).Holds
    interval _
  rw [isDone]
  exact deepStore_of_deep (kept.holds caller) permitted

end Answers

section Steps

variable {step : Step feed} (kept : Kept interval step.before)
  (permitted : (lane interval).permits ((lane interval).phase step.before step.caller) step.op)
  (orderly : Orderly interval step)

include kept permitted orderly

theorem holds_next :
    ((lane interval).next ((lane interval).phase step.before step.caller) step.op
      step.reply).Holds interval step.after.state := by
  have same := holds_after kept permitted orderly step.caller
  obtain ⟨before, caller, op, fate⟩ := step
  cases op with
  | findOldest => exact holds_findOldest kept fate permitted
  | findNewest => exact holds_findNewest kept fate permitted
  | clock => exact holds_clock kept fate orderly
  | fetch range limit => exact holds_fetch kept fate permitted
  | createMany bars => exact holds_createMany kept fate permitted orderly
  | receive bar => exact holds_receive fate permitted
  | complete => exact holds_complete kept fate permitted
  | _ =>
    rw [next_plain (by trivial)]
    exact same

theorem kept_step : Kept interval step.after := by
  refine ⟨proper_step kept permitted orderly, fun completed => ?_, fun caller => ?_⟩
  · by_cases isComplete : step.op = .complete
    · refine ⟨step.caller, ?_⟩
      rw [Protocol.phase_after_self]
      obtain ⟨before, caller, op, fate⟩ := step
      subst isComplete
      show (lane interval).next ((lane interval).phase before caller) .complete (.ok ()) = .done
      cases (lane interval).phase before caller <;> rfl
    · have already : step.before.state.completed = true := by
        obtain ⟨before, caller, op, fate⟩ := step
        cases op with
        | complete => exact absurd rfl isComplete
        | createMany bars =>
          have same : (perform (.createMany bars) fate before.state).1.completed =
              before.state.completed := Delivery.write_same rfl
          exact same.symm.trans completed
        | _ => exact completed
      obtain ⟨caller, isDone⟩ := kept.finished already
      refine ⟨caller, ?_⟩
      rw [Protocol.phases_after]
      by_cases same : caller = step.caller
      · rw [same] at isDone
        rw [isDone] at permitted
        rw [same, Function.update_self, isDone]
        exact next_done permitted _
      · rw [Function.update_of_ne same]
        exact isDone
  · rw [Protocol.phases_after]
    by_cases same : caller = step.caller
    · rw [same, Function.update_self]
      exact holds_next kept permitted orderly
    · rw [Function.update_of_ne same]
      exact holds_after kept permitted orderly caller

end Steps

/-! ### Runs -/

theorem sound_of_kept {step : Step feed} (kept : Kept interval step.after) :
    Sound interval step := by
  intro completed
  obtain ⟨caller, isDone⟩ := kept.finished completed
  have deep := kept.holds caller
  rw [isDone] at deep
  exact full_of_deepStore kept.proper.noHole deep

/-- In an orderly run from a store without holes, the store of a completed job has none. -/
theorem full_of_orderly (interval : Interval) (start : Start)
    (noHole : start.desk.NoHole interval) (requests : List Request) (turns : List (Turn feed))
    (orderly : ∀ step ∈ (klineSystem interval start requests).steps turns,
      Orderly interval step) :
    ∀ step ∈ (klineSystem interval start requests).steps turns, Sound interval step := by
  have allowed : ∀ step ∈ (klineSystem interval start requests).steps turns,
      (lane interval).permits ((lane interval).phase step.before step.caller) step.op ∧
        Orderly interval step :=
    fun step member =>
      ⟨permits_of_mem_steps start requests turns step member, orderly step member⟩
  have begin_ : Kept interval (klineSystem interval start requests).moment :=
    ⟨⟨start.listed, start.closed, noHole⟩, fun completed => absurd completed Bool.false_ne_true,
      fun _ => trivial⟩
  exact (Async.System.run_keeps (fun step kept both =>
    have after := kept_step kept both.1 both.2
    ⟨sound_of_kept after, after⟩) begin_ turns allowed).2

instance (desk : Desk) (bar : ℕ) : Decidable (desk.Reaches interval bar) :=
  inferInstanceAs (Decidable (_ ∨ _))

instance (desk : Desk) (bars : List ℕ) : Decidable (desk.Touches bars) :=
  inferInstanceAs (Decidable (∃ bar ∈ _, _))

instance (phase : Phase) : Decidable phase.Anchored := by
  rcases phase with _ | _ <;> unfold Phase.Anchored <;> infer_instance

instance (moment : Moment feed) : Decidable (SomeDeep interval moment) :=
  inferInstanceAs (Decidable (∃ event ∈ _, _))

instance (step : Step feed) : Decidable (Orderly interval step) := by
  unfold Orderly
  dsimp only
  split
  · split <;> infer_instance
  · infer_instance
  · infer_instance

/-- Nothing fails. -/
def turnsOf (caller count : ℕ) : List (Turn feed) :=
  List.replicate count ⟨caller, fun _ => .answered⟩

/-- A symbol whose third bar is in progress, of which the store has the first. -/
def young : Start := ⟨0, 3, [0], by decide, by decide⟩

/-- Of a symbol whose tenth bar is in progress the store has the first. -/
def behind : Start := ⟨0, 9, [0], by decide, by decide⟩

theorem full_of_orderly_young :
    ((klineSystem .oneDay young [.backfill, .elapse, .refresh]).steps
      (turnsOf 0 16 ++ turnsOf 1 1 ++ turnsOf 2 3)).Forall (Sound .oneDay) :=
  List.forall_iff_forall_mem.mpr (full_of_orderly .oneDay young (by
    intro first isFirst last isLast bar above below recent
    cases List.mem_singleton.mp isFirst
    cases List.mem_singleton.mp isLast
    exact List.mem_singleton.mpr (by omega)) _ _ (by decide +kernel))

/-- The refresh stores the last bars before the job has synced, which then finds nothing
missing. -/
theorem not_full : ¬ ∀ (interval : Interval) (start : Start) (requests : List Request)
    (turns : List (Turn feed)),
    ∀ step ∈ (klineSystem interval start requests).steps turns, Sound interval step := by
  intro always
  have sound := always .oneDay behind [.refresh, .backfill] (turnsOf 0 3 ++ turnsOf 1 9)
  have completed : ∃ step ∈ (klineSystem .oneDay behind [.refresh, .backfill]).steps
      (turnsOf 0 3 ++ turnsOf 1 9), step.after.state.completed = true ∧
        8 ∈ step.after.state.store ∧ step.after.state.listing ≤ 1 ∧
          step.after.state.now ≤ 1 + Interval.oneDay.targetBars ∧
            1 ∉ step.after.state.store := by decide +kernel
  obtain ⟨step, member, isCompleted, stored, listed, recent, missing⟩ := completed
  exact missing (sound step member isCompleted 8 stored 1 listed recent (by decide))

end GdslExchange.Market
