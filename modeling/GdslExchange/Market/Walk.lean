/-
This file follows the calls of the candle store through phases: what a page is asked for,
whether its bars have come, and whether the job has walked back to the end of the history.
-/

import GdslExchange.Market.Klines

namespace GdslExchange.Market

open Async Async.Program
open Protocol (Follows ends permitted)

/-! ### Phases -/

/-- What a page of bars is for: the first page of an empty store, a page back from the oldest
bar after so many others, a page on from the newest bar, the page of a sync that finds no bar,
or none of the job's. The pages back know when their walk began. -/
inductive Course where
  | first (began : ℕ)
  | back (began pages oldest : ℕ)
  | seed
  | on (newest : ℕ)
  | other

namespace Course

def range : Course → Range
  | back _ _ oldest => .before oldest
  | on newest => .after newest
  | _ => .latest

/-- The stored bar that a page follows on. -/
def anchor : Course → Option ℕ
  | back _ _ oldest => some oldest
  | on newest => some newest
  | _ => none

/-- The page is one of a sync, which comes after the walk back. -/
def Syncs : Course → Prop
  | seed => True
  | on _ => True
  | _ => False

instance : DecidablePred Syncs := fun course => by
  cases course <;> unfold Syncs <;> infer_instance

end Course

inductive Phase where
  | idle
  | dated (now : ℕ)
  | going (course : Course)
  | fetched (course : Course) (raw : List ℕ)
  | inHand (course : Course) (bars : List ℕ)
  /-- The walk back has ended. -/
  | walked
  /-- The job is completed. -/
  | done

/-- The walk back of the caller has ended. -/
def Phase.Deep : Phase → Prop
  | going course => course.Syncs
  | fetched course _ => course.Syncs
  | inHand course _ => course.Syncs
  | walked => True
  | done => True
  | _ => False

instance : DecidablePred Phase.Deep := fun phase => by
  cases phase <;> unfold Phase.Deep <;> infer_instance

/-- Where the closed bars of a page lead: none ends the walk. -/
def Course.landed (course : Course) (bars : List ℕ) : Phase :=
  if bars = [] then (match course with
    | .other => .idle
    | _ => .walked)
  else .inHand course bars

/-- Where the walk back goes after a page, the last bar of which is this one. -/
def walkOn (targetBars began pages : ℕ) : List ℕ → Phase
  | [] => .walked
  | first :: rest =>
    if (first :: rest).length < 1000 then .walked
    else if first + targetBars ≤ began then .walked
    else if pages = 40 then .walked
    else .going (.back began pages first)

/-- Where a page leads that is written. -/
def Course.written (targetBars : ℕ) (bars : List ℕ) : Course → Phase
  | .first began => walkOn targetBars began 1 bars
  | .back began pages _ => walkOn targetBars began (pages + 1) bars
  | .other => .idle
  | _ => .walked

variable (interval : Interval)

def lane : Protocol feed Phase where
  start := .idle
  permits phase
    | .findOldest => ∃ now, phase = .dated now
    | .findNewest => phase = .walked
    | .fetch range limit => (phase = .idle ∧ range = .latest) ∨
      ∃ course, phase = .going course ∧ range = course.range ∧
        (limit = 1000 ∨ ∃ newest, course = .on newest)
    | .createMany bars => ∃ course, phase = .inHand course bars
    | .complete => phase.Deep
    | .receive _ => phase = .idle
    | _ => True
  next
    | .idle, .clock, .ok now => .dated now
    | .fetched course raw, .clock, .ok now => course.landed (raw.filter fun bar => bar < now)
    | .dated began, .findOldest, .ok oldest =>
      match oldest with
      | none => .going (.first began)
      | some bar =>
        if bar + interval.targetBars ≤ began then .walked else .going (.back began 0 bar)
    | .walked, .findNewest, .ok newest => .going ((newest.map Course.on).getD .seed)
    | .idle, .fetch _ _, .ok raw => .fetched .other raw
    | .going course, .fetch _ _, .ok raw => .fetched course raw
    | .inHand course _, .createMany bars, .ok _ => course.written interval.targetBars bars
    | _, .complete, .ok _ => .done
    | .idle, .receive bar, .ok isClosed => if isClosed then .inHand .other [bar] else .idle
    | _, .findOldest, .error _ => .idle
    | _, .findNewest, .error _ => .idle
    | _, .fetch _ _, .error _ => .idle
    | _, .createMany _, .error _ => .idle
    | phase, _, _ => phase

variable {interval}

/-! ### The calls follow the phases -/

section Walk

variable {targetBars began pages first : ℕ} {rest : List ℕ}

theorem walkOn_walked (ends_ : (first :: rest).length < 1000 ∨ first + targetBars ≤ began ∨
    pages = 40) : walkOn targetBars began pages (first :: rest) = .walked := by
  show (if _ then _ else if _ then _ else if _ then _ else _) = _
  rcases ends_ with short | deep | last
  · rw [if_pos short]
  · rw [if_pos deep, ite_self]
  · rw [if_pos last, ite_self, ite_self]

theorem walkOn_going (long : ¬ (first :: rest).length < 1000)
    (shallow : ¬ first + targetBars ≤ began) (more : pages ≠ 40) :
    walkOn targetBars began pages (first :: rest) = .going (.back began pages first) := by
  show (if _ then _ else if _ then _ else if _ then _ else _) = _
  rw [if_neg long, if_neg shallow, if_neg more]

end Walk

/-- What is known of a phase after a throw: nothing. -/
abbrev Anything : Phase → Prop := fun _ => True

theorem fetchKlines_follows {phase : Phase} {course : Course} {range : Range} {limit : ℕ}
    (permitted : (lane interval).permits phase (.fetch range limit))
    (isFetched : ∀ raw, (lane interval).next phase (.fetch range limit) (.ok raw) =
      .fetched course raw) :
    (lane interval).Follows phase (fetchKlines range limit)
      (ends (fun bars reached => reached = course.landed bars) Anything) := by
  refine Follows.moves (.fetched course) permitted isFetched (fun _ => trivial) fun raw => ?_
  exact Follows.moves (fun now => course.landed (raw.filter fun bar => bar < now)) trivial
    (fun _ => rfl) (fun _ => trivial) fun now => rfl

/-- The pages of a course of the job. -/
theorem fetchGoing_follows (course : Course) {limit : ℕ}
    (isLimit : limit = 1000 ∨ ∃ newest, course = .on newest) :
    (lane interval).Follows (.going course) (fetchKlines course.range limit)
      (ends (fun bars reached => reached = course.landed bars) Anything) :=
  fetchKlines_follows (Or.inr ⟨course, rfl, rfl, isLimit⟩) fun _ => rfl

theorem writeKlines_follows (course : Course) {bars : List ℕ} (some_ : bars ≠ []) :
    (lane interval).Follows (course.landed bars) (writeKlines bars)
      (ends (fun _ reached => reached = course.written interval.targetBars bars) Anything) := by
  unfold writeKlines Course.landed
  rw [if_neg some_, if_neg some_]
  exact Follows.perform ⟨course, rfl⟩ (fun _ => rfl) fun _ => trivial

theorem historyPages_follows (began : ℕ) (pages : ℕ) {course : Course} {used : ℕ}
    {oldest : Option ℕ} (isCourse : course = (oldest.map (.back began used)).getD (.first began))
    (isFirst : oldest = none → used = 0) (budget : used + pages = 40) (some_ : pages ≠ 0) :
    (lane interval).Follows (.going course) (historyPages interval.targetBars began pages oldest)
      (ends (fun _ reached => reached = .walked) Anything) := by
  induction pages generalizing course used oldest with
  | zero => exact absurd rfl some_
  | succ pages inductionHypothesis =>
    have isRange : (oldest.map Range.before).getD .latest = course.range := by
      rw [isCourse]
      cases oldest <;> rfl
    have next (bars : List ℕ) : course.written interval.targetBars bars =
        walkOn interval.targetBars began (used + 1) bars := by
      rw [isCourse]
      cases oldest with
      | none =>
        rw [isFirst rfl]
        rfl
      | some bar => rfl
    have fetching : (lane interval).Follows (.going course) (fetchKlines course.range 1000)
        (ends (fun bars reached => reached = course.landed bars) Anything) :=
      fetchGoing_follows course (Or.inl rfl)
    unfold historyPages
    rw [isRange]
    refine Follows.bind fetching fun candles reached same => ?_
    rw [same]
    cases candles with
    | nil =>
      show Course.landed course [] = .walked
      rw [isCourse]
      cases oldest <;> rfl
    | cons first rest =>
      have writing : (lane interval).Follows (course.landed (first :: rest))
          (writeKlines (first :: rest)) (ends (fun _ reached => reached =
            course.written interval.targetBars (first :: rest)) Anything) :=
        writeKlines_follows course (List.cons_ne_nil first rest)
      refine Follows.bind writing fun _ reached same => ?_
      rw [same, next]
      by_cases short : (first :: rest).length < 1000
      · rw [if_pos short, walkOn_walked (Or.inl short)]
        exact rfl
      rw [if_neg short]
      by_cases deep : first + interval.targetBars ≤ began
      · rw [if_pos deep, walkOn_walked (Or.inr (Or.inl deep))]
        exact rfl
      rw [if_neg deep]
      by_cases last : used + 1 = 40
      · have none_ : pages = 0 := by omega
        rw [walkOn_walked (Or.inr (Or.inr last)), none_]
        exact rfl
      · rw [walkOn_going short deep last]
        have follows : (lane interval).Follows (.going (.back began (used + 1) first))
            (historyPages interval.targetBars began pages (some first)) _ :=
          inductionHypothesis rfl nofun (by omega) (by omega)
        exact follows

theorem backfillHistory_follows :
    (lane interval).Follows .idle (backfillHistory interval)
      (ends (fun _ reached => reached = .walked) Anything) := by
  refine Follows.moves .dated trivial (fun _ => rfl) (fun _ => trivial) fun began => ?_
  refine ⟨⟨began, rfl⟩, fun reply => ?_⟩
  cases reply with
  | error message => trivial
  | ok oldest =>
    cases oldest with
    | none => exact historyPages_follows began 40 rfl (fun _ => rfl) rfl (by decide)
    | some bar =>
      show (lane interval).Follows (if bar + interval.targetBars ≤ began then .walked
        else .going (.back began 0 bar)) (if (some bar).any _ then pure ()
          else historyPages interval.targetBars began 40 (some bar)) _
      by_cases deep : bar + interval.targetBars ≤ began
      · rw [if_pos deep, if_pos (by simpa using deep)]
        exact rfl
      · rw [if_neg deep, if_neg (by simpa using deep)]
        exact historyPages_follows began 40 (rfl : Course.back began 0 bar =
          ((some bar).map (Course.back began 0)).getD (.first began)) nofun rfl (by decide)

theorem syncPages_follows (pages : ℕ) :
    (lane interval).Follows .walked (syncPages pages)
      (ends (fun _ reached => reached.Deep) Anything) := by
  induction pages with
  | zero => exact trivial
  | succ pages inductionHypothesis =>
    refine Follows.moves (fun newest => .going ((newest.map Course.on).getD .seed)) rfl
      (fun _ => rfl) (fun _ => trivial) fun newest => ?_
    cases newest with
    | none =>
      refine Follows.bind (fetchGoing_follows .seed (Or.inl rfl))
        fun candles reached same => ?_
      rw [same]
      by_cases none_ : candles = []
      · rw [none_]
        exact trivial
      · refine Follows.bind (writeKlines_follows .seed none_) fun _ reached same => ?_
        rw [same]
        exact trivial
    | some bar =>
      refine Follows.moves (fun _ => .going (.on bar)) trivial (fun _ => rfl) (fun _ => trivial)
        fun now => ?_
      by_cases caught : (now - bar - 1 : ℤ) ≤ 0
      · rw [if_pos caught]
        exact trivial
      rw [if_neg caught]
      refine Follows.bind (fetchGoing_follows (.on bar) (Or.inr ⟨bar, rfl⟩))
        fun candles reached same => ?_
      rw [same]
      by_cases none_ : candles = []
      · rw [if_pos none_, none_]
        exact trivial
      rw [if_neg none_]
      refine Follows.bind (writeKlines_follows (.on bar) none_)
        fun _ reached same => ?_
      rw [same]
      show (lane interval).Follows .walked (if candles.length < _ then pure ()
        else syncPages pages) _
      split
      · exact trivial
      · exact inductionHypothesis

theorem runJob_follows :
    (lane interval).Follows .idle (runJob interval)
      (ends (fun _ reached => reached = .done) Anything) := by
  refine Follows.andThen backfillHistory_follows fun _ => ?_
  refine Follows.bind (syncPages_follows 10) fun _ reached deep => ?_
  refine Follows.perform deep (fun _ => ?_) fun _ => trivial
  cases reached <;> rfl

/-- Operations after which a call stands where it stood. -/
theorem anywhere_plain {op : Op} (phase : Phase)
    (permitted : (lane interval).permits phase op) :
    (lane interval).Follows phase (await op) (ends (fun _ _ => True) Anything) :=
  Follows.perform permitted (fun _ => trivial) fun _ => trivial

/-- A failure that is caught. -/
theorem recover_anywhere {phase : Phase} {body : Call Unit}
    (tried : (lane interval).Follows phase body (ends (fun _ _ => True) Anything)) :
    (lane interval).Follows phase (recover body fun _ => pure ())
      (ends (fun _ _ => True) Anything) :=
  Follows.recover tried fun _ _ _ => trivial

theorem call_follows (request : Request) :
    (lane interval).Follows .idle (request.call interval)
      (ends (fun _ _ => True) Anything) := by
  have ran : (lane interval).Follows .idle (runJob interval)
      (ends (fun _ _ => True) Anything) :=
    runJob_follows.mono fun result _ _ => by cases result <;> trivial
  have tried := recover_anywhere ran
  cases request with
  | backfill =>
    have beginning : (lane interval).Follows .idle (await .begin)
        (ends (fun _ reached => reached = .idle) Anything) :=
      Follows.perform trivial (fun _ => rfl) fun _ => trivial
    refine Follows.andThen beginning fun mayRun => ?_
    cases mayRun with
    | false => trivial
    | true =>
      have finishing (reached : Phase) : (lane interval).Follows reached (await .finish)
          (ends (fun _ _ => True) Anything) := anywhere_plain reached trivial
      have queueing : (lane interval).Follows .idle (await .buildBackfillQueue)
          (ends (fun _ reached => reached = .idle) Anything) :=
        Follows.perform trivial (fun _ => rfl) fun _ => trivial
      have queued : (lane interval).Follows .idle (do
          let queued ← await .buildBackfillQueue
          if queued then recover (runJob interval) fun _ => pure ()
          else pure ()) (ends (fun _ _ => True) Anything) := by
        refine Follows.andThen queueing fun queued => ?_
        cases queued with
        | false => trivial
        | true => exact tried
      exact Follows.finally queued (fun _ reached _ => finishing reached)
        fun reached _ => finishing reached
  | ensure =>
    have looking : (lane interval).Follows .idle (await .isCompleted)
        (ends (fun _ reached => reached = .idle) Anything) :=
      Follows.perform trivial (fun _ => rfl) fun _ => trivial
    refine Follows.andThen looking fun completed => ?_
    cases completed with
    | false => exact tried
    | true => trivial
  | refresh =>
    show (lane interval).Follows .idle (refreshCycle interval) _
    unfold refreshCycle
    split
    · refine recover_anywhere ?_
      refine Follows.bind (fetchKlines_follows (Or.inl ⟨rfl, rfl⟩) fun _ => rfl)
        fun candles reached same => ?_
      rw [same]
      by_cases none_ : candles = []
      · rw [none_]
        trivial
      · exact Follows.bind (writeKlines_follows .other none_) fun _ _ _ => trivial
    · trivial
  | message bar =>
    show (lane interval).Follows .idle (onMessage interval bar) _
    unfold onMessage
    split
    · have receiving : (lane interval).Follows .idle (await (.receive bar))
          (ends (fun isClosed reached => reached = if isClosed then .inHand .other [bar] else .idle)
            Anything) :=
        Follows.perform rfl (fun _ => rfl) fun _ => trivial
      refine Follows.bind receiving fun isClosed reached same => ?_
      rw [same]
      cases isClosed with
      | false => trivial
      | true =>
        exact recover_anywhere (Follows.bind
          (writeKlines_follows .other (List.cons_ne_nil bar [])) fun _ _ _ => trivial)
    · trivial
  | elapse => exact anywhere_plain .idle trivial

theorem permits_of_mem_steps (start : Start) (requests : List Request)
    (turns : List (Turn feed)) :
    ∀ step ∈ (klineSystem interval start requests).steps turns,
      (lane interval).permits ((lane interval).phase step.before step.caller) step.op :=
  permitted (System.each_call fun _ request => call_follows request) turns

end GdslExchange.Market
