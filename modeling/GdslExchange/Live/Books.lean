/-
This file states what the memory of the bots has to do with the fills, the order
sizes and the intervals, as facts about plain data: what each bot holds, what it has
bought and not sold, and what each caller is at. There is one lemma for each thing a
call does to them.
-/

import Mathlib.Algebra.Ring.Rat
import GdslExchange.Async.Exclusion
import GdslExchange.Live.Phases

namespace GdslExchange.Live

open Async

/-! ### Lists that grow and change -/

section Lists

variable {Item : Type} {items : List Item} {item found : Item} {index other : ℕ}

theorem found_of_concat (isFound : (items ++ [item])[index]? = some found) :
    items[index]? = some found ∨ index = items.length ∧ found = item := by
  rcases Nat.lt_trichotomy index items.length with old | new | beyond
  · rw [List.getElem?_append_left old] at isFound
    exact .inl isFound
  · rw [new, List.getElem?_concat_length] at isFound
    exact .inr ⟨new, (Option.some.inj isFound).symm⟩
  · rw [List.getElem?_eq_none (by rw [List.length_append]; exact beyond)] at isFound
    cases isFound

theorem found_of_set (isFound : (items.set index item)[other]? = some found) :
    index = other ∧ found = item ∨ index ≠ other ∧ items[other]? = some found := by
  by_cases same : index = other
  · rw [same, List.getElem?_set_self', Option.map_eq_map, Option.map_eq_some_iff] at isFound
    obtain ⟨old, -, isItem⟩ := isFound
    exact .inl ⟨same, isItem.symm⟩
  · rw [List.getElem?_set_ne same] at isFound
    exact .inr ⟨same, isFound⟩

end Lists

/-! ### Positions and fills -/

/-- A bot is entered with what it has bought and not sold, but for the one fill that may be under
way: a BUY of all there is, or a SELL that has left nothing. -/
structure Books (entries : List (Position × ℚ)) (net : ℕ → ℚ) (flight : ℕ → Option Fill) :
    Prop where
  exclusive : Exclusive flight
  flat : ∀ (bot : ℕ) (entry : Position × ℚ), entries[bot]? = some entry → entry.1 = .none →
    entry.2 = 0
  settled : ∀ (bot : ℕ) (entry : Position × ℚ), entries[bot]? = some entry →
    (∀ caller fill, flight caller = some fill → fill.bot ≠ bot) → entry.2 = net bot
  bought : ∀ caller bot qty, flight caller = some ⟨bot, .buy, qty⟩ → net bot = qty
  sold : ∀ caller bot qty, flight caller = some ⟨bot, .sell, qty⟩ → net bot = 0
  fresh : ∀ bot, entries.length ≤ bot → net bot = 0

/-- What a bot has bought and not sold after the fill of an order in an orderly way. -/
def Fill.leaves (fill : Fill) : ℚ :=
  match fill.side with
  | .buy => fill.qty
  | .sell => 0

section Books

variable {entries : List (Position × ℚ)} {net : ℕ → ℚ} {flight : ℕ → Option Fill} {caller : ℕ}
  {fill : Fill}

theorem Books.fly (books : Books entries net flight) (free : ∀ other, flight other = none)
    (fill : Fill) (isBot : fill.bot < entries.length) :
    Books entries (Function.update net fill.bot fill.leaves)
      (Function.update flight caller (some fill)) := by
  have own : ∀ other some_, Function.update flight caller (some fill) other = some some_ →
      some_ = fill := by
    intro other some_ isSome
    by_cases same : other = caller
    · rw [same, Function.update_self] at isSome
      exact (Option.some.inj isSome).symm
    · rw [Function.update_of_ne same, free other] at isSome
      cases isSome
  refine ⟨?_, books.flat, fun bot entry isEntry none_ => ?_, fun other bot qty isFill => ?_,
    fun other bot qty isFill => ?_, fun bot isFresh => ?_⟩
  · exact FreeBut.exclusive (FreeBut.update (fun other _ => free other) _)
  · have different : bot ≠ fill.bot :=
      (none_ caller fill (Function.update_self caller (some fill) flight)).symm
    rw [Function.update_of_ne different]
    refine books.settled bot entry isEntry fun other some_ isSome => ?_
    rw [free other] at isSome
    cases isSome
  · obtain rfl := own other _ isFill
    rw [Function.update_self]
    rfl
  · obtain rfl := own other _ isFill
    rw [Function.update_self]
    rfl
  · have different : bot ≠ fill.bot := (Nat.lt_of_lt_of_le isBot isFresh).ne'
    rw [Function.update_of_ne different]
    exact books.fresh bot isFresh

/-- The fill under way is entered. -/
theorem Books.enter (books : Books entries net flight) (own : flight caller = some fill)
    {entry : Position × ℚ} (isNet : entry.2 = net fill.bot)
    (isFlat : entry.1 = .none → entry.2 = 0) :
    Books (entries.set fill.bot entry) net (Function.update flight caller none) := by
  have free : FreeBut flight caller := books.exclusive.freeBut (by rw [own]; exact nofun)
  have none_ : ∀ other, Function.update flight caller none other = none := by
    intro other
    by_cases same : other = caller
    · rw [same, Function.update_self]
    · rw [Function.update_of_ne same]
      exact free other same
  refine ⟨books.exclusive.leave caller, fun bot found isEntry isNone => ?_,
    fun bot found isEntry _ => ?_, fun other bot qty isFill => ?_, fun other bot qty isFill => ?_,
    fun bot isFresh => ?_⟩
  · rcases found_of_set isEntry with ⟨-, rfl⟩ | ⟨-, old⟩
    · exact isFlat isNone
    · exact books.flat bot found old isNone
  · rcases found_of_set isEntry with ⟨rfl, rfl⟩ | ⟨different, old⟩
    · exact isNet
    · refine books.settled bot found old fun other some_ isSome => ?_
      by_cases isCaller : other = caller
      · rw [isCaller, own] at isSome
        rw [← Option.some.inj isSome]
        exact different
      · rw [free other isCaller] at isSome
        cases isSome
  · rw [none_ other] at isFill
    cases isFill
  · rw [none_ other] at isFill
    cases isFill
  · rw [List.length_set] at isFresh
    exact books.fresh bot isFresh

/-- A new bot. -/
theorem Books.install (books : Books entries net flight) :
    Books (entries ++ [(.none, 0)]) net flight := by
  refine ⟨books.exclusive, fun bot entry isEntry isNone => ?_, fun bot entry isEntry none_ => ?_,
    books.bought, books.sold, fun bot isFresh => ?_⟩
  · rcases found_of_concat isEntry with old | ⟨-, rfl⟩
    · exact books.flat bot entry old isNone
    · rfl
  · rcases found_of_concat isEntry with old | ⟨new, rfl⟩
    · exact books.settled bot entry old none_
    · exact (books.fresh bot new.ge).symm
  · rw [List.length_append] at isFresh
    exact books.fresh bot (Nat.le_of_succ_le isFresh)

theorem Books.leaves (books : Books entries net flight) (free : ∀ other, flight other = none)
    {entry : Position × ℚ} (isEntry : entries[fill.bot]? = some entry)
    (isMatch : match fill.side with
      | .buy => entry.1 = .none
      | .sell => fill.qty = entry.2) :
    net fill.bot + fill.signed = fill.leaves := by
  have isNet : entry.2 = net fill.bot := by
    refine books.settled fill.bot entry isEntry fun other some_ isSome => ?_
    rw [free other] at isSome
    cases isSome
  obtain ⟨bot, side, qty⟩ := fill
  cases side with
  | buy =>
    have isFlat : entry.2 = 0 := books.flat bot entry isEntry isMatch
    show net bot + qty = qty
    rw [← isNet, isFlat, zero_add]
  | sell =>
    show net bot + -qty = 0
    rw [show qty = entry.2 from isMatch, isNet, add_neg_cancel]

end Books

/-! ### Order sizes -/

/-- A bot has the order size it was started with, but for the one that is overwritten. -/
structure Sizes (sizes : List (BotSettings × ℚ)) (overwrite : ℕ → Option (ℕ × ℚ)) : Prop where
  exclusive : Exclusive overwrite
  configured : ∀ (bot : ℕ) (size : BotSettings × ℚ), sizes[bot]? = some size →
    (∀ caller saved, overwrite caller = some saved → saved.1 ≠ bot) →
    size.2 = size.1.orderSizeUsdt
  saved : ∀ caller saved, overwrite caller = some saved →
    ∃ size, sizes[saved.1]? = some size ∧ saved.2 = size.1.orderSizeUsdt

section Sizes

variable {sizes : List (BotSettings × ℚ)} {overwrite : ℕ → Option (ℕ × ℚ)} {caller bot : ℕ}

section

variable (isSizes : Sizes sizes overwrite)
include isSizes

theorem Sizes.replace (free : ∀ other, overwrite other = none) {size : BotSettings × ℚ}
    (isSize : sizes[bot]? = some size) (other : ℚ) :
    Sizes (sizes.set bot (size.1, other))
      (Function.update overwrite caller (some (bot, size.2))) := by
  have isConfigured : ∀ (index : ℕ) (found : BotSettings × ℚ), sizes[index]? = some found →
      found.2 = found.1.orderSizeUsdt := by
    intro index found isFound
    refine isSizes.configured index found isFound fun other saved isSaved => ?_
    rw [free other] at isSaved
    cases isSaved
  refine ⟨?_, fun index found isFound none_ => ?_, fun some_ saved isSaved => ?_⟩
  · exact FreeBut.exclusive (FreeBut.update (fun other _ => free other) _)
  · have different : bot ≠ index :=
      none_ caller _ (Function.update_self caller (some (bot, size.2)) overwrite)
    rw [List.getElem?_set_ne different] at isFound
    exact isConfigured index found isFound
  · by_cases same : some_ = caller
    · rw [same, Function.update_self] at isSaved
      rw [← Option.some.inj isSaved]
      refine ⟨(size.1, other), ?_, isConfigured bot size isSize⟩
      exact List.getElem?_set_self (List.getElem?_eq_some_iff.mp isSize).1
    · rw [Function.update_of_ne same, free some_] at isSaved
      cases isSaved

theorem Sizes.restore {saved : ℚ} (own : overwrite caller = some (bot, saved))
    {size : BotSettings × ℚ} (isSize : sizes[bot]? = some size) :
    Sizes (sizes.set bot (size.1, saved)) (Function.update overwrite caller none) := by
  have free : FreeBut overwrite caller := isSizes.exclusive.freeBut (by rw [own]; exact nofun)
  refine ⟨isSizes.exclusive.leave caller, fun index found isFound _ => ?_,
    fun some_ other isOther => ?_⟩
  · rcases found_of_set isFound with ⟨rfl, rfl⟩ | ⟨different, old⟩
    · obtain ⟨configured, isBot, isSaved⟩ := isSizes.saved caller _ own
      rw [isSize] at isBot
      rw [Option.some.inj isBot]
      exact isSaved
    · refine isSizes.configured index found old fun other some_ isSome => ?_
      by_cases isCaller : other = caller
      · rw [isCaller, own] at isSome
        rw [← Option.some.inj isSome]
        exact different
      · rw [free other isCaller] at isSome
        cases isSome
  · by_cases same : some_ = caller
    · rw [same, Function.update_self] at isOther
      cases isOther
    · rw [Function.update_of_ne same, free some_ same] at isOther
      cases isOther

/-- Without a bot there is nothing to restore. -/
theorem Sizes.isSome {saved : ℚ} (own : overwrite caller = some (bot, saved)) :
    ∃ size, sizes[bot]? = some size := by
  obtain ⟨size, isSize, -⟩ := isSizes.saved caller _ own
  exact ⟨size, isSize⟩

theorem Sizes.install (settings : BotSettings) :
    Sizes (sizes ++ [(settings, settings.orderSizeUsdt)]) overwrite := by
  refine ⟨isSizes.exclusive, fun index found isFound none_ => ?_, fun caller saved isSaved => ?_⟩
  · rcases found_of_concat isFound with old | ⟨-, rfl⟩
    · exact isSizes.configured index found old none_
    · rfl
  · obtain ⟨size, isSize, isConfigured⟩ := isSizes.saved caller saved isSaved
    have old : saved.1 < sizes.length := (List.getElem?_eq_some_iff.mp isSize).1
    exact ⟨size, (List.getElem?_append_left old).trans isSize, isConfigured⟩

end

end Sizes

/-! ### The bot that runs -/

/-- A bot that a call holds, and one whose interval is set, is the one that runs; a bot that a
call stops has its interval cleared. -/
structure Watch (running : Option ℕ) (timers : List Bool) (phases : ℕ → Phase) : Prop where
  held : ∀ caller bot, (phases caller).holds = some bot → running = some bot
  ticking : ∀ bot, timers[bot]? = some true → running = some bot
  stopped : ∀ caller bot, (phases caller).holds = some bot → (phases caller).stopping = true →
    timers[bot]? ≠ some true

section Watch

variable {running : Option ℕ} {timers : List Bool} {phases : ℕ → Phase} {caller bot : ℕ}

/-- A caller moves, and nothing else does. -/
theorem Watch.move (watch : Watch running timers phases) {phase : Phase}
    (held : ∀ bot, phase.holds = some bot → running = some bot)
    (stopped : ∀ bot, phase.holds = some bot → phase.stopping = true → timers[bot]? ≠ some true) :
    Watch running timers (Function.update phases caller phase) := by
  refine ⟨fun other bot isHeld => ?_, watch.ticking, fun other bot isHeld isStopping => ?_⟩
  · by_cases same : other = caller
    · rw [same, Function.update_self] at isHeld
      exact held bot isHeld
    · rw [Function.update_of_ne same] at isHeld
      exact watch.held other bot isHeld
  · by_cases same : other = caller
    · rw [same, Function.update_self] at isHeld isStopping
      exact stopped bot isHeld isStopping
    · rw [Function.update_of_ne same] at isHeld isStopping
      exact watch.stopped other bot isHeld isStopping

theorem Watch.clear (watch : Watch running timers phases) (bot : ℕ) :
    Watch running (timers.set bot false) phases := by
  have still : ∀ other : ℕ, (timers.set bot false)[other]? = some true →
      timers[other]? = some true := by
    intro other isTicking
    rcases found_of_set isTicking with ⟨-, impossible⟩ | ⟨-, old⟩
    · cases impossible
    · exact old
  exact ⟨watch.held, fun other isTicking => watch.ticking other (still other isTicking),
    fun caller other isHeld isStopping isTicking =>
      watch.stopped caller other isHeld isStopping (still other isTicking)⟩

/-- The bot that runs, with its interval cleared and held by nobody, is removed. -/
theorem Watch.remove (watch : Watch running timers phases) (isRunning : running = some bot)
    (cleared : timers[bot]? ≠ some true) (unheld : ∀ caller, (phases caller).holds = none) :
    Watch none timers phases := by
  refine ⟨fun caller other isHeld => ?_, fun other isTicking => ?_,
    fun caller other isHeld => ?_⟩
  · rw [unheld caller] at isHeld
    cases isHeld
  · have same : bot = other := Option.some.inj (isRunning.symm.trans (watch.ticking other isTicking))
    rw [← same] at isTicking
    exact (cleared isTicking).elim
  · rw [unheld caller] at isHeld
    cases isHeld

/-- A new bot runs where none did. -/
theorem Watch.install (watch : Watch none timers phases) :
    Watch (some timers.length) (timers ++ [true]) phases := by
  have unheld : ∀ caller bot, (phases caller).holds ≠ some bot :=
    fun caller bot isHeld => nomatch watch.held caller bot isHeld
  refine ⟨fun caller other isHeld => (unheld caller other isHeld).elim, fun other isTicking => ?_,
    fun caller other isHeld => (unheld caller other isHeld).elim⟩
  rcases found_of_concat isTicking with old | ⟨new, -⟩
  · cases watch.ticking other old
  · rw [new]

end Watch

end GdslExchange.Live
