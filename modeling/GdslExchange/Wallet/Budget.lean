/-
This file says in which runs the delegated buys stay within their budget.

A buy reads the recorded total, and its swap is recorded when the receipt is
there. So the total that a buy goes by misses the swaps that landed without a
row, and those of the buys that ran meanwhile. Where neither happens the budget
holds in every state.
-/

import GdslExchange.Async.Contract
import GdslExchange.Numeric.Cover
import GdslExchange.Wallet.Delegate

namespace GdslExchange.Wallet.Delegate

open Async
open Async.Program
open Async.Contract
open Numeric
open Spot (fromUnits parseAmount usdtAddr wbnbAddr)

/-! ### The condition -/

/-- A buy swap that takes effect. -/
def LandsBuy : Event router → Prop
  | ⟨_, .swapExactTokensForTokens direction _ _, sending, _⟩ =>
    direction = .buyUsdtToWbnb ∧ Sending.Lands sending
  | _ => False

/-- Since a caller last read the total, no swap of another's buy has landed. -/
def Undisturbed (caller : ℕ) : List (Event router) → Prop
  | [] => True
  | event :: rest => (event.caller = caller ∧ event.op = .sumDelegatedBuyUsdt) ∨
      (event.caller ≠ caller → ¬ LandsBuy event) ∧ Undisturbed caller rest

/-- Every buy swap that has landed has its row, with at least what it spent. -/
def Recorded (book : Book) : Prop :=
  ∀ id swap, book.swaps[id]? = some swap → swap.spentUsdt = 0 ∨
    ∃ row ∈ book.spends, row.txHash = id ∧ swap.spentUsdt ≤ row.countedUsdt

/-- The total is read when every landed buy is on record, and a buy swap that lands was sent on
a total that no other buy has made stale. -/
def Prompt (step : Step router) : Prop :=
  match step with
  | ⟨before, _, .sumDelegatedBuyUsdt, _⟩ => Recorded before.state
  | ⟨before, caller, .swapExactTokensForTokens direction _ _, sending⟩ =>
    direction = .buyUsdtToWbnb → Sending.Lands sending → Undisturbed caller before.log
  | _ => True

/-! ### The total and the swaps -/

def Counted (book : Book) : Prop := ∀ row ∈ book.spends, 0 ≤ row.countedUsdt

theorem spentUsdt_le_recordedUsdt {book : Book} (recorded : Recorded book)
    (counted : Counted book) : book.spentUsdt ≤ book.recordedUsdt :=
  sum_le_sum_of_positions counted recorded

section Steps

variable {step : Step router}

theorem write_keeps {kept : Book → Prop} (delivery : Delivery) {before after : Book}
    (was : kept before) (becomes : kept after) :
    kept (if delivery.Applies then after else before) := by
  split
  · exact becomes
  · exact was

theorem spentUsdt_sign (book : Book) (swap : SignedSwap) :
    (book.sign swap).spentUsdt = book.spentUsdt + swap.spentUsdt := by
  unfold Book.spentUsdt Book.sign
  rw [List.map_append, List.sum_append, List.map_singleton, List.sum_singleton]

theorem spentUsdt_le (swap : SignedSwap) : swap.spentUsdt ≤ fromUnits swap.amountIn 18 := by
  unfold SignedSwap.spentUsdt
  split
  · exact le_rfl
  · unfold fromUnits
    positivity

theorem spentUsdt_after (idle : ¬ LandsBuy step.event) :
    step.after.state.spentUsdt = step.before.state.spentUsdt := by
  obtain ⟨before, caller, op, fate⟩ := step
  let Same : Book → Prop := fun book => book.spentUsdt = before.state.spentUsdt
  cases op with
  | sumDelegatedBuyUsdt =>
    exact @write_keeps Same fate before.state before.state rfl rfl
  | hasHistoricalBuyApproval =>
    exact @write_keeps Same fate before.state before.state rfl rfl
  | createSpend row =>
    exact @write_keeps Same fate before.state (before.state.record row) rfl rfl
  | swapExactTokensForTokens direction amountIn amountOutMin =>
    have unspent : (before.state.sign ⟨direction, amountIn, Sending.Lands fate⟩).spentUsdt =
        before.state.spentUsdt := by
      have nothing : (SignedSwap.mk direction amountIn (Sending.Lands fate)).spentUsdt = 0 :=
        if_neg fun lands => idle ⟨lands.1, of_decide_eq_true lands.2⟩
      rw [spentUsdt_sign, nothing, add_zero]
    cases fate with
    | landed => exact unspent
    | reverted => exact unspent
    | refused message => rfl
    | lost message => exact unspent
  | _ => rfl

theorem spentUsdt_swap_le {before : Moment router} {caller amountIn amountOutMin : ℕ}
    {direction : Direction} {sending : Sending} :
    (Step.mk before caller (.swapExactTokensForTokens direction amountIn amountOutMin)
        sending : Step router).after.state.spentUsdt ≤
      before.state.spentUsdt + fromUnits amountIn 18 := by
  have signed : (before.state.sign ⟨direction, amountIn, sending.Lands⟩).spentUsdt ≤
      before.state.spentUsdt + fromUnits amountIn 18 := by
    rw [spentUsdt_sign]
    exact add_le_add_right (spentUsdt_le _) _
  cases sending with
  | landed => exact signed
  | reverted => exact signed
  | refused message =>
    refine le_add_of_nonneg_right ?_
    unfold fromUnits
    positivity
  | lost message => exact signed

theorem counted_after (counted : Counted step.before.state)
    (created : ∀ row, step.op = .createSpend row → 0 ≤ row.stored.countedUsdt) :
    Counted step.after.state := by
  obtain ⟨before, caller, op, fate⟩ := step
  cases op with
  | sumDelegatedBuyUsdt =>
    exact @write_keeps Counted fate before.state before.state counted counted
  | hasHistoricalBuyApproval =>
    exact @write_keeps Counted fate before.state before.state counted counted
  | createSpend row =>
    refine @write_keeps Counted fate before.state (before.state.record row) counted
      fun other member => ?_
    rcases List.mem_append.mp member with old | isNew
    · exact counted other old
    · rw [List.mem_singleton.mp isNew]
      exact created row rfl
  | swapExactTokensForTokens direction amountIn amountOutMin => cases fate <;> exact counted
  | _ => exact counted

end Steps

/-! ### The contract of a trade -/

/-- The budget holds; a caller knows that the total it read is still right if no other's buy has
landed since. -/
def withinBudget (settings : Settings) : Contract router where
  allowed := Prompt
  promised _ := True
  invariant moment := moment.state.spentUsdt ≤ (getDelegateCaps settings).maxTotalUsdt ∧
    Counted moment.state
  rely caller before after := Undisturbed caller after.log →
    Undisturbed caller before.log ∧ after.state.spentUsdt = before.state.spentUsdt
  rely_refl _ _ undisturbed := ⟨undisturbed, rfl⟩
  rely_trans _ _ _ _ head tail undisturbed := by
    obtain ⟨between, sameTail⟩ := tail undisturbed
    obtain ⟨start, sameHead⟩ := head between
    exact ⟨start, sameTail.trans sameHead⟩

section Trades

variable {settings : Settings} {caller : ℕ}

theorem rely_others (step : Step router) (other : ℕ) (different : other ≠ step.caller) :
    (withinBudget settings).rely other step.before step.after := by
  rintro (⟨isOther, _⟩ | ⟨idle, undisturbed⟩)
  · exact absurd isOther.symm different
  · exact ⟨undisturbed, spentUsdt_after (idle different.symm)⟩

/-- The total that a caller has read covers what has been spent, unless it was disturbed. -/
def Covers (caller : ℕ) (used : ℚ) (moment : Moment router) : Prop :=
  Undisturbed caller moment.log → moment.state.spentUsdt ≤ used

theorem stable_covers (used : ℚ) : (withinBudget settings).Stable caller (Covers caller used) := by
  intro moment later covers relied _ undisturbed
  obtain ⟨before, same⟩ := relied undisturbed
  rw [same]
  exact covers before

/-- An operation that neither reads the total, nor writes a row, nor swaps. -/
def Quiet : Op → Prop
  | .sumDelegatedBuyUsdt => False
  | .createSpend _ => False
  | .swapExactTokensForTokens _ _ _ => False
  | _ => True

theorem idle_of_quiet {before : Moment router} {op : Op} {fate : Fate op} (quiet : Quiet op) :
    ¬ LandsBuy (Step.mk before caller op fate : Step router).event := by
  cases op <;> first | exact quiet.elim | exact not_false

theorem respects_idle {step : Step router} (idle : ¬ LandsBuy step.event)
    (created : ∀ row, step.op = .createSpend row → 0 ≤ row.stored.countedUsdt)
    (invariant : (withinBudget settings).invariant step.before) :
    (withinBudget settings).Respects step where
  promised := trivial
  invariant := by
    refine ⟨?_, counted_after invariant.2 created⟩
    rw [spentUsdt_after idle]
    exact invariant.1
  others other different := rely_others step other different

theorem triple_quiet (used : ℚ) {op : Op} (quiet : Quiet op) :
    (withinBudget settings).Triple caller (Covers caller used) (Async.Program.perform op)
      (outcome (fun _ => Covers caller used) fun _ => Covers caller used) := by
  refine Triple.perform (stable_covers used) fun before fate covers invariant _ => ?_
  have idle := @idle_of_quiet caller before op fate quiet
  refine ⟨respects_idle idle (fun row isRow => ?_) invariant, outcome_const.mpr ?_⟩
  · have isCreate : op = .createSpend row := isRow
    rw [isCreate] at quiet
    exact quiet.elim
  · rintro (⟨_, reads⟩ | ⟨_, undisturbed⟩)
    · have isRead : op = .sumDelegatedBuyUsdt := reads
      rw [isRead] at quiet
      exact quiet.elim
    · rw [spentUsdt_after idle]
      exact covers undisturbed

/-- The total is read when it covers what has been spent. -/
theorem triple_sumDelegatedBuyUsdt : (withinBudget settings).Triple caller (fun _ => True)
    (await .sumDelegatedBuyUsdt)
    (outcome (fun used => Covers caller used) fun _ _ => True) := by
  refine Triple.perform (fun _ _ _ _ _ => trivial) fun before fate _ invariant recorded => ?_
  have idle : ¬ LandsBuy (Step.mk before caller .sumDelegatedBuyUsdt fate :
      Step router).event := not_false
  refine ⟨respects_idle idle nofun invariant, ?_⟩
  refine outcome_intro (fun used isUsed _ => ?_) fun _ _ => trivial
  have isTotal : used = before.state.recordedUsdt := by
    cases fate with
    | answered =>
      cases isUsed
      rfl
    | refused message => cases isUsed
    | lost message => cases isUsed
  rw [spentUsdt_after idle, isTotal]
  exact spentUsdt_le_recordedUsdt recorded invariant.2

theorem triple_swap {used : ℚ} {direction : Direction} {amountIn amountOutMin : ℕ}
    (left : direction = .buyUsdtToWbnb →
      fromUnits amountIn 18 ≤ (getDelegateCaps settings).maxTotalUsdt - used) :
    (withinBudget settings).Triple caller (Covers caller used)
      (await (.swapExactTokensForTokens direction amountIn amountOutMin)) anyOutcome := by
  refine Triple.perform (stable_covers used) fun before sending covers invariant prompt => ?_
  refine ⟨⟨trivial, ?_, fun other different => rely_others _ other different⟩,
    outcome_intro (fun _ _ => trivial) fun _ _ => trivial⟩
  refine ⟨?_, counted_after invariant.2 nofun⟩
  by_cases lands : direction = .buyUsdtToWbnb ∧ Sending.Lands sending
  · have spent := covers (prompt lands.1 lands.2)
    have most := @spentUsdt_swap_le before caller amountIn amountOutMin direction sending
    have rest := left lands.1
    linarith
  · have idle : ¬ LandsBuy (Step.mk before caller (.swapExactTokensForTokens direction amountIn
        amountOutMin) sending : Step router).event := lands
    rw [spentUsdt_after idle]
    exact invariant.1

/-- A program of quiet operations keeps what the caller knows of the total. -/
theorem triple_only (used : ℚ) {Value : Type} {program : Call Value}
    (quiet : program.Only Quiet) :
    (withinBudget settings).Triple caller (Covers caller used) program
      (outcome (fun _ => Covers caller used) fun _ _ => True) :=
  (Triple.only (fun _ isQuiet => triple_quiet used isQuiet) quiet).throwing fun _ _ _ => trivial

theorem quiet_await {op : Op} (quiet : Quiet op) : (await op).Only Quiet := only_perform quiet

theorem quiet_approval {approval : Call String} (only : approval.Only Quiet) (failure : AppError) :
    (approval >>= fun hash => await (.waitForApproval hash) >>= fun status =>
      throwIf (status = false) failure >>= fun _ =>
        (pure (some hash) : Call (Option String))).Only Quiet := by
  refine only_bind only fun hash => only_then trivial fun status => ?_
  exact only_bind only_throwIf fun _ => trivial

theorem quiet_ensureUsdtAllowance (amountIn : ℕ) (cap : ℚ) :
    (ensureUsdtAllowance amountIn cap).Only Quiet := by
  refine only_bind (@quiet_await (.allowance usdtAddr) trivial) fun allowance => ?_
  split
  · trivial
  · refine only_bind (@quiet_await .hasHistoricalBuyApproval trivial) fun _ => ?_
    refine only_bind only_throwIf fun _ => only_bind only_ofExcept fun delegatedCap => ?_
    exact quiet_approval (@quiet_await (.approve usdtAddr (some delegatedCap)) trivial) _

theorem quiet_ensureWbnbAllowance (amountIn : ℕ) :
    (ensureWbnbAllowance amountIn).Only Quiet := by
  refine only_bind (@quiet_await (.allowance wbnbAddr) trivial) fun allowance => ?_
  split
  · trivial
  · exact quiet_approval (@quiet_await (.approve wbnbAddr none) trivial) _

theorem quiet_quoteSwap (amountIn : ℕ) (path : List String) :
    (quoteSwap amountIn path).Only Quiet :=
  only_then trivial fun _ => only_orThrow

theorem quiet_sellAmount (balance : ℕ) (amount : Option ℚ) :
    (sellAmount balance amount).Only Quiet := by
  cases amount with
  | none => trivial
  | some wanted =>
    refine only_bind only_throwIf fun _ => only_bind only_ofExcept fun _ => ?_
    exact only_bind only_throwIf fun _ => trivial

/-- An operation that respects the contract whatever its caller knows. -/
def Harmless : Op → Prop
  | .createSpend row => 0 ≤ row.stored.countedUsdt
  | .swapExactTokensForTokens direction _ _ => direction = .sellWbnbToUsdt
  | _ => True

theorem harmless_of_quiet {op : Op} (quiet : Quiet op) : Harmless op := by
  cases op <;> first | exact quiet.elim | exact trivial

theorem triple_harmless {op : Op} (harmless : Harmless op) :
    (withinBudget settings).Triple caller (fun _ => True) (Async.Program.perform op)
      anyOutcome := by
  refine Triple.perform (fun _ _ _ _ _ => trivial) fun before fate _ invariant _ => ?_
  refine ⟨respects_idle ?_ (fun row isRow => ?_) invariant,
    outcome_intro (fun _ _ => trivial) fun _ _ => trivial⟩
  · cases op with
    | swapExactTokensForTokens direction amountIn amountOutMin =>
      rintro ⟨isBuy, _⟩
      exact Direction.noConfusion (isBuy.symm.trans harmless)
    | _ => exact not_false
  · have isCreate : op = .createSpend row := isRow
    rw [isCreate] at harmless
    exact harmless

theorem triple_onlyHarmless {Value : Type} {program : Call Value} (only : program.Only Harmless) :
    (withinBudget settings).Triple caller (fun _ => True) program anyOutcome :=
  Triple.only (fun _ harmless => triple_harmless harmless) only

/-! ### Buys and sells -/

theorem harmless_landSell (amountIn amountOutMin : ℕ) (failure : String) :
    (landSwap .sellWbnbToUsdt amountIn amountOutMin failure).Only Harmless := by
  refine only_then (show Harmless (.swapExactTokensForTokens .sellWbnbToUsdt
    amountIn amountOutMin) from rfl) fun hash => ?_
  exact only_then trivial fun _ => only_bind only_throwIf fun _ => trivial

theorem harmless_executeDelegatedSell (userId : String) (wbnbAmountHuman : Option ℚ) :
    (executeDelegatedSell settings userId wbnbAmountHuman).Only Harmless := by
  have quiet : ∀ {Value : Type} {program : Call Value}, program.Only Quiet →
      program.Only Harmless := fun only => only.mono fun _ => harmless_of_quiet
  refine only_bind (only_bind only_throwIf fun _ => only_orThrow) fun _ => ?_
  refine only_then trivial fun balance => only_bind only_throwIf fun _ => ?_
  refine only_bind (quiet (quiet_sellAmount _ _)) fun _ => only_bind only_throwIf fun _ => ?_
  refine only_bind (quiet (quiet_ensureWbnbAllowance _)) fun _ => ?_
  refine only_bind (quiet (quiet_quoteSwap _ _)) fun _ => ?_
  refine only_bind (harmless_landSell _ _ _) fun _ => ?_
  exact only_then (show Harmless (.createSpend _) from le_rfl) fun _ => trivial

/-- What a buy that passed its checks asks for. -/
theorem triple_checkBudget {used usdtAmount : ℚ} :
    (withinBudget settings).Triple caller (Covers caller used)
      (checkBudget (getDelegateCaps settings) used usdtAmount)
      (outcome (fun _ moment => (5 ≤ usdtAmount ∧
        usdtAmount ≤ (getDelegateCaps settings).maxTotalUsdt - used) ∧ Covers caller used moment)
        fun _ _ => True) := by
  refine Triple.bind (Triple.throwIf (fun _ _ _ => trivial) fun some _ covers =>
    (⟨some, covers⟩ : _ ∧ Covers caller used _)) fun _ => Triple.given fun left => ?_
  refine Triple.bind (Triple.throwIf (fun _ _ _ => trivial) fun enough _ covers =>
    (⟨enough, covers⟩ : _ ∧ Covers caller used _)) fun _ => Triple.given fun enough => ?_
  refine Triple.bind (@Triple.throwIf _ _ _ (Covers caller used) _ _ _ _ (fun _ => Covers caller used)
    (fun _ _ _ => trivial) fun _ _ covers => covers) fun _ => ?_
  refine Triple.throwIf (fun _ _ _ => trivial) fun within _ covers =>
    ⟨⟨not_lt.mp enough, ?_⟩, covers⟩
  have most := not_lt.mp within
  rcases le_total ((getDelegateCaps settings).maxTotalUsdt - used) 0 with none | positive
  · rw [max_eq_left none] at left
    exact absurd le_rfl left
  · rwa [max_eq_right positive] at most

theorem fromUnits_of_parseAmount {amount : ℚ} {units decimals : ℕ} (nonneg : 0 ≤ amount)
    (parsed : parseAmount amount decimals = .ok units) : fromUnits units decimals = amount := by
  unfold parseAmount at parsed
  split at parsed
  · rename_i whole
    cases parsed
    have scaled : 0 ≤ amount * 10 ^ decimals := by positivity
    have isInt : (((amount * 10 ^ decimals).num.toNat : ℕ) : ℚ) = amount * 10 ^ decimals := by
      rw [← Int.cast_natCast, Int.toNat_of_nonneg (Rat.num_nonneg.mpr scaled)]
      exact Rat.coe_int_num_of_den_eq_one whole
    unfold fromUnits
    rw [isInt]
    field_simp
  · cases parsed

theorem returns_parseUnits18 {amount : ℚ} (nonneg : 0 ≤ amount) :
    (parseUnits18 amount).Returns fun units => fromUnits units 18 = amount := by
  unfold parseUnits18
  cases parsed : parseAmount amount 18 with
  | error message => trivial
  | ok units => exact fromUnits_of_parseAmount nonneg parsed

theorem triple_executeDelegatedBuy (userId : String) (usdtAmount : ℚ) :
    (withinBudget settings).Triple caller (fun _ => True)
      (executeDelegatedBuy settings userId usdtAmount) anyOutcome := by
  have always : ∀ {Value : Type} {program : Call Value}, program.Only Harmless →
      (withinBudget settings).Triple caller (fun _ => True) program
        anyOutcome := triple_onlyHarmless
  refine Triple.bind (always (only_bind only_throwIf fun _ => only_orThrow)) fun _ => ?_
  refine Triple.bind triple_sumDelegatedBuyUsdt fun used => ?_
  refine Triple.bind triple_checkBudget fun _ => Triple.given fun checked => ?_
  have nonneg : 0 ≤ usdtAmount := by linarith [checked.1]
  refine Triple.bind ((triple_only used only_ofExcept).returning (returns_parseUnits18 nonneg))
    fun amountIn => Triple.given fun worth => ?_
  refine Triple.bind (triple_only used (@quiet_await (.balanceOf usdtAddr) trivial))
    fun balance => ?_
  refine Triple.bind (triple_only used only_throwIf) fun _ => ?_
  refine Triple.bind (triple_only used (quiet_ensureUsdtAllowance _ _)) fun _ => ?_
  refine Triple.bind (triple_only used (quiet_quoteSwap _ _)) fun _ => ?_
  refine Triple.bind (Triple.bind (triple_swap fun _ => ?_) fun hash =>
    always (only_bind (@only_perform router Harmless (.waitForSwap hash) trivial) fun _ =>
      only_bind only_throwIf fun _ => trivial)) fun hash => always ?_
  · rw [worth]
    exact checked.2
  · have counts : (0 : ℚ) ≤ roundTo 8 usdtAmount :=
      div_nonneg (Int.cast_nonneg (round_nonneg (by positivity))) (by positivity)
    exact only_then (show Harmless (.createSpend _) from counts) fun _ => trivial

end Trades

/-! ### The budget -/

instance : DecidablePred LandsBuy := fun event =>
  match event with
  | ⟨_, .swapExactTokensForTokens direction _ _, sending, _⟩ =>
    inferInstanceAs (Decidable (direction = .buyUsdtToWbnb ∧ Sending.Lands sending))
  | ⟨_, .sumDelegatedBuyUsdt, _, _⟩ | ⟨_, .hasHistoricalBuyApproval, _, _⟩
  | ⟨_, .createSpend _, _, _⟩ | ⟨_, .balanceOf _, _, _⟩ | ⟨_, .allowance _, _, _⟩
  | ⟨_, .approve _ _, _, _⟩ | ⟨_, .waitForApproval _, _, _⟩ | ⟨_, .getAmountsOut _ _, _, _⟩
  | ⟨_, .waitForSwap _, _, _⟩ => isFalse not_false

instance decidableUndisturbed (caller : ℕ) :
    (log : List (Event router)) → Decidable (Undisturbed caller log)
  | [] => isTrue trivial
  | event :: rest =>
    have : Decidable (event.op = .sumDelegatedBuyUsdt) :=
      inferInstanceAs (Decidable (@Eq Op event.op .sumDelegatedBuyUsdt))
    have : Decidable (Undisturbed caller rest) := decidableUndisturbed caller rest
    inferInstanceAs (Decidable ((event.caller = caller ∧ event.op = .sumDelegatedBuyUsdt) ∨
      (event.caller ≠ caller → ¬ LandsBuy event) ∧ Undisturbed caller rest))

instance : DecidablePred Recorded := fun book =>
  decidable_of_iff (∀ id : Fin book.swaps.length, (book.swaps.get id).spentUsdt = 0 ∨
      ∃ row ∈ book.spends, row.txHash = id ∧ (book.swaps.get id).spentUsdt ≤ row.countedUsdt) <| by
    constructor
    · intro each id swap found
      obtain ⟨bound, isSwap⟩ := List.getElem?_eq_some_iff.mp found
      rw [← isSwap]
      exact each ⟨id, bound⟩
    · exact fun recorded id => recorded id _ (List.getElem?_eq_getElem id.isLt)

instance : DecidablePred Prompt := fun step =>
  match step with
  | ⟨before, _, .sumDelegatedBuyUsdt, _⟩ => inferInstanceAs (Decidable (Recorded before.state))
  | ⟨before, caller, .swapExactTokensForTokens direction _ _, sending⟩ =>
    inferInstanceAs (Decidable (direction = .buyUsdtToWbnb → Sending.Lands sending →
      Undisturbed caller before.log))
  | ⟨_, _, .hasHistoricalBuyApproval, _⟩ | ⟨_, _, .createSpend _, _⟩
  | ⟨_, _, .balanceOf _, _⟩ | ⟨_, _, .allowance _, _⟩ | ⟨_, _, .approve _ _, _⟩
  | ⟨_, _, .waitForApproval _, _⟩ | ⟨_, _, .getAmountsOut _ _, _⟩
  | ⟨_, _, .waitForSwap _, _⟩ => isTrue trivial

/-- Where every landed buy is on record when a total is read, and no total is used once another
buy has landed, the landed buys stay within the budget in every state of every run. -/
theorem spentUsdt_le_maxTotalUsdt (settings : Settings) (start : Book) (trades : List Trade)
    (turns : List (Turn router)) (counted : Counted start)
    (within : start.spentUsdt ≤ (getDelegateCaps settings).maxTotalUsdt)
    (prompt : ∀ step ∈ (tradeSystem settings start trades).steps turns, Prompt step) :
    ((tradeSystem settings start trades).run turns).moment.state.spentUsdt ≤
      (getDelegateCaps settings).maxTotalUsdt := by
  have holds : (withinBudget settings).Holds (fun _ _ _ => True)
      (tradeSystem settings start trades) := by
    refine ⟨⟨within, counted⟩, System.each_call fun _ trade => ?_⟩
    have ends : ∀ (result : Except AppError DelegateSwapResult) (moment : Moment router),
        outcome (fun _ _ => True) (fun _ _ => True) result moment → True := fun _ _ _ => trivial
    cases trade with
    | buy userId usdtAmount =>
      exact (triple_executeDelegatedBuy userId usdtAmount _ trivial).mono ends
    | sell userId wbnbAmountHuman =>
      exact (triple_onlyHarmless (harmless_executeDelegatedSell userId wbnbAmountHuman) _
        trivial).mono ends
  exact (sound (fun _ _ _ _ _ _ _ => trivial) holds turns prompt).1.invariant.1

/-- Delegated trading is on, with a budget of 500 USDT. -/
def delegated : Settings := ⟨true, some "signer", 500, 500, 100⟩

/-- Everything is answered: balances of 10000 tokens, no need to approve, a quote, and swaps that
land. -/
def obliging (caller : ℕ) : Turn router where
  caller := caller
  fate
    | .sumDelegatedBuyUsdt => Delivery.answered
    | .hasHistoricalBuyApproval => Delivery.answered
    | .createSpend _ => Delivery.answered
    | .balanceOf _ => .ok (10000 * 10 ^ 18)
    | .allowance _ => .ok (10000 * 10 ^ 18)
    | .approve _ _ => .ok "0xapproval"
    | .waitForApproval _ => .ok true
    | .getAmountsOut amountIn _ => .ok [amountIn, 10 ^ 18]
    | .swapExactTokensForTokens _ _ _ => Sending.landed
    | .waitForSwap _ => Wait.mined

/-- A buy of 300 USDT and then one of 200 use the budget up. -/
theorem spentUsdt_oneAfterAnother :
    let trades : List Trade := [.buy "first" 300, .buy "second" 200]
    let turns := List.replicate 7 (obliging 0) ++ List.replicate 7 (obliging 1)
    ((tradeSystem delegated ⟨[], []⟩ trades).run turns).moment.state.spentUsdt = 500 ∧
      ((tradeSystem delegated ⟨[], []⟩ trades).run turns).moment.state.spentUsdt ≤
        (getDelegateCaps delegated).maxTotalUsdt :=
  ⟨by decide +kernel, spentUsdt_le_maxTotalUsdt delegated ⟨[], []⟩ _ _ nofun (by decide +kernel)
    (by decide +kernel)⟩

/-- Two buys of 300 USDT that both read the total first spend 600. -/
theorem not_spentUsdt_le_maxTotalUsdt :
    ¬ ∀ (settings : Settings) (trades : List Trade) (turns : List (Turn router)),
      ((tradeSystem settings ⟨[], []⟩ trades).run turns).moment.state.spentUsdt ≤
        (getDelegateCaps settings).maxTotalUsdt := by
  intro always
  have overlapping := always delegated [.buy "first" 300, .buy "second" 300]
    (obliging 0 :: List.replicate 7 (obliging 1) ++ List.replicate 6 (obliging 0))
  revert overlapping
  decide +kernel

end GdslExchange.Wallet.Delegate
