/-
This file models `binanceRestLimiter`, the gate that Binance calls of background jobs pass: a
call is charged its weight as soon as the charges of the last minute leave room for it, and
sleeps and looks again until then. In every minute, whichever it is, the weights that were
charged stay within the budget.
-/

import Mathlib.Algebra.Order.BigOperators.Group.List
import Mathlib.Data.Rat.Floor

namespace GdslExchange.Market

def limiterWindowMs : ℕ := 60000

structure Charge where
  at_ : ℕ
  weight : ℤ

def Charge.Counts (now : ℕ) (charge : Charge) : Prop := now < charge.at_ + limiterWindowMs

instance (now : ℕ) : DecidablePred (Charge.Counts now) := fun _ => Nat.decLt _ _

def totalWeight (charges : List Charge) : ℤ := (charges.map Charge.weight).sum

structure BinanceRestLimiter where
  charges : List Charge
  budget : ℤ
  atLeast : 60 ≤ budget

namespace BinanceRestLimiter

/-- `constructor`. -/
def new (budgetPerMinute : ℚ) : BinanceRestLimiter := ⟨[], max 60 ⌊budgetPerMinute⌋, le_max_left _ _⟩

/-- The charges that are left once those of more than a minute ago are dropped. -/
def usedWeight (now : ℕ) (limiter : BinanceRestLimiter) : ℤ × BinanceRestLimiter :=
  let charges := limiter.charges.filter (Charge.Counts now)
  (totalWeight charges, { limiter with charges })

/-- What a call of that weight is charged. -/
def cost (weight : ℚ) (limiter : BinanceRestLimiter) : ℤ := min limiter.budget (max 1 ⌊weight⌋)

/-- `acquire`, from one sleep to the next: the charge, or how long the call goes on sleeping. -/
def acquire (weight : ℚ) (now : ℕ) (limiter : BinanceRestLimiter) :
    Except ℕ Charge × BinanceRestLimiter :=
  let (used, limiter) := limiter.usedWeight now
  let charge := ⟨now, limiter.cost weight⟩
  if used + charge.weight ≤ limiter.budget then
    (.ok charge, { limiter with charges := limiter.charges ++ [charge] })
  else
    match limiter.charges.head? with
    | some oldest => (.error (max 100 (limiterWindowMs - (now - oldest.at_))), limiter)
    | none => (.error 1000, limiter)

end BinanceRestLimiter

/-! ### Concurrent calls -/

/-- A call wakes up, or somebody takes a snapshot. -/
inductive LimiterTurn where
  | resume (now caller : ℕ)
  | snapshot (now : ℕ)

def LimiterTurn.now : LimiterTurn → ℕ
  | .resume now _ => now
  | .snapshot now => now

/-- The limiter, and what has been granted to which call, the latest first. -/
structure Limited where
  limiter : BinanceRestLimiter
  granted : List (ℕ × Charge)

/-- One turn. A call that has been granted its weight has returned. -/
def Limited.turn (weights : List ℚ) (limited : Limited) : LimiterTurn → Limited
  | .snapshot now => { limited with limiter := (limited.limiter.usedWeight now).2 }
  | .resume now caller =>
    match weights[caller]? with
    | none => limited
    | some weight =>
      if caller ∈ limited.granted.map Prod.fst then limited
      else
        match limited.limiter.acquire weight now with
        | (.ok charge, limiter) => ⟨limiter, (caller, charge) :: limited.granted⟩
        | (.error _, limiter) => { limited with limiter }

/-- Calls of these weights, in these turns. -/
def limitedRun (budgetPerMinute : ℚ) (weights : List ℚ) (turns : List LimiterTurn) : Limited :=
  turns.foldl (Limited.turn weights) ⟨.new budgetPerMinute, []⟩

def Limited.grantedFrom (limited : Limited) (start : ℕ) : ℤ :=
  totalWeight ((limited.granted.map Prod.snd).filter fun charge =>
    start ≤ charge.at_ ∧ charge.at_ < start + limiterWindowMs)

/-! ### The budget of a minute -/

/-- A call is charged if the charges that count leave room for it, and else only forgets the others. -/
theorem BinanceRestLimiter.acquire_cases (weight : ℚ) (now : ℕ) (limiter : BinanceRestLimiter) :
    (∃ wait, limiter.acquire weight now = (.error wait, (limiter.usedWeight now).2)) ∨
    ∃ charge, limiter.acquire weight now = (.ok charge, { (limiter.usedWeight now).2 with
        charges := (limiter.usedWeight now).2.charges ++ [charge] }) ∧
      charge.at_ = now ∧ 0 ≤ charge.weight ∧
      (limiter.usedWeight now).1 + charge.weight ≤ limiter.budget := by
  unfold acquire
  dsimp only
  split_ifs with fits
  · have budget := limiter.atLeast
    exact Or.inr ⟨_, rfl, rfl, le_min (by show 0 ≤ limiter.budget; omega) (by omega), fits⟩
  · split
    · exact Or.inl ⟨_, rfl⟩
    · exact Or.inl ⟨_, rfl⟩

theorem totalWeight_cons (charge : Charge) (charges : List Charge) :
    totalWeight (charge :: charges) = charge.weight + totalWeight charges := List.sum_cons

theorem totalWeight_filter_le {charges : List Charge} (nonneg : ∀ charge ∈ charges, 0 ≤ charge.weight)
    {few many : Charge → Bool} (imp : ∀ charge ∈ charges, few charge → many charge) :
    totalWeight (charges.filter few) ≤ totalWeight (charges.filter many) := by
  induction charges with
  | nil => rfl
  | cons charge rest inductionHypothesis =>
    have shorter := inductionHypothesis (fun other member => nonneg other (.tail _ member))
      fun other member => imp other (.tail _ member)
    have weight := nonneg charge (.head _)
    have first := imp charge (.head _)
    rw [List.filter_cons, List.filter_cons]
    split_ifs with isFew isMany isMany
    · rw [totalWeight_cons, totalWeight_cons]
      omega
    · exact absurd (first isFew) isMany
    · rw [totalWeight_cons]
      omega
    · exact shorter

theorem filter_counts_counts {earlier later : ℕ} (le : earlier ≤ later) (charges : List Charge) :
    (charges.filter (Charge.Counts earlier)).filter (Charge.Counts later) =
      charges.filter (Charge.Counts later) := by
  rw [List.filter_filter]
  refine List.filter_congr fun charge _ => ?_
  by_cases counts : charge.Counts later
  · simp [counts, show charge.Counts earlier from le.trans_lt counts]
  · simp [counts]

/-- From now on the limiter counts all that was granted and still counts, and in no minute more
than the budget has been granted. -/
structure Limited.Within (limit : ℤ) (clock : ℕ) (limited : Limited) : Prop where
  budget : limited.limiter.budget = limit
  past : ∀ charge ∈ limited.granted.map Prod.snd, charge.at_ ≤ clock ∧ 0 ≤ charge.weight
  counted : ∀ now, clock ≤ now →
    totalWeight (limited.limiter.charges.filter (Charge.Counts now)) =
      totalWeight ((limited.granted.map Prod.snd).filter (Charge.Counts now))
  within : ∀ start, limited.grantedFrom start ≤ limit

section Turns

variable {limit : ℤ} {clock : ℕ} {limited : Limited}

theorem Limited.Within.prune (within : limited.Within limit clock) {now : ℕ} (le : clock ≤ now) :
    Limited.Within limit now { limited with limiter := (limited.limiter.usedWeight now).2 } where
  budget := within.budget
  past charge member := ⟨(within.past charge member).1.trans le, (within.past charge member).2⟩
  counted later isLater := by
    rw [← within.counted later (le.trans isLater)]
    exact congrArg totalWeight (filter_counts_counts isLater _)
  within := within.within

theorem Limited.Within.grant (within : limited.Within limit clock) {charge : Charge} (caller : ℕ)
    (isNow : charge.at_ = clock) (nonneg : 0 ≤ charge.weight)
    (fits : totalWeight (limited.limiter.charges.filter (Charge.Counts clock)) + charge.weight ≤
      limit) :
    Limited.Within limit clock
      ⟨{ limited.limiter with charges := limited.limiter.charges ++ [charge] },
        (caller, charge) :: limited.granted⟩ where
  budget := within.budget
  past := List.forall_mem_cons.mpr ⟨⟨isNow.le, nonneg⟩, within.past⟩
  counted now le := by
    have counted := within.counted now le
    unfold totalWeight at counted
    rw [List.filter_append, List.map_cons, List.filter_cons (x := charge), totalWeight, totalWeight,
      List.map_append, List.sum_append]
    split_ifs with counts
    · simpa [List.filter_cons, counts, add_comm] using counted
    · simpa [List.filter_cons, counts] using counted
  within start := by
    have earlier := within.within start
    unfold grantedFrom at earlier ⊢
    rw [List.map_cons, List.filter_cons (x := charge)]
    split_ifs with isIn
    · -- All that was granted since the start of this minute still counts.
      have bounds : start ≤ charge.at_ ∧ charge.at_ < start + limiterWindowMs :=
        of_decide_eq_true isIn
      have counts : totalWeight ((limited.granted.map Prod.snd).filter fun charge =>
          start ≤ charge.at_ ∧ charge.at_ < start + limiterWindowMs) ≤
          totalWeight ((limited.granted.map Prod.snd).filter (Charge.Counts clock)) := by
        refine totalWeight_filter_le (fun charge member => (within.past charge member).2)
          fun charge member isIn => ?_
        have since := (of_decide_eq_true isIn).1
        refine decide_eq_true (?_ : clock < charge.at_ + limiterWindowMs)
        omega
      rw [← within.counted clock le_rfl] at counts
      rw [totalWeight_cons]
      omega
    · exact earlier

theorem Limited.Within.turn (within : limited.Within limit clock) (weights : List ℚ)
    {turn : LimiterTurn} (le : clock ≤ turn.now) :
    Limited.Within limit turn.now (limited.turn weights turn) := by
  have pruned := within.prune le
  cases turn with
  | snapshot now => exact pruned
  | resume now caller =>
    have aged : limited.Within limit now := {
      within with
      past := pruned.past
      counted := fun later isLater => within.counted later (le.trans isLater) }
    dsimp only [Limited.turn]
    split
    · exact aged
    · rename_i weight found
      split
      · exact aged
      · obtain ⟨wait, sleeps⟩ | ⟨charge, granted, isNow, nonneg, fits⟩ :=
          limited.limiter.acquire_cases weight now
        · rw [sleeps]
          exact pruned
        · rw [granted]
          refine pruned.grant caller isNow nonneg ?_
          rw [← within.budget]
          refine le_trans (le_of_eq ?_) fits
          exact congrArg (totalWeight · + _) (filter_counts_counts le_rfl _)

end Turns

end GdslExchange.Market
