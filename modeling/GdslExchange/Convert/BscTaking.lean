/-
This file settles when a convert on BSC is honest: when nothing fails once the fee or the input of
the swap has left the wallet, no landing is reported as a failure, and the rounded amounts add up
to no more than what was asked.
-/

import GdslExchange.Async.Finding
import GdslExchange.Convert.Bsc

namespace GdslExchange.Convert.Bsc

open Async (Delivery)
open Async.Program
open Spot (BscToken QuotedPath bestQuote findToken sellAmountRawFromBalance slippageOf)

section Fates

variable (fates : (op : Op) → Fate op) (treasury : String) (source destination : BscToken)
  (amount : ℚ)

/-! ### The fee -/

def priceOf : Option ℚ :=
  if source.symbol = "USDT" ∨ source.symbol = "USDC" then some 1
  else fates (.fetchBinancePrice (binanceSymbol source))

def TooSmall : Prop :=
  ∃ price ∈ (priceOf fates source).filter fun price => price > 0,
    convertFeeUsd / price ≥ amount * (2 / 10)

def feeDue : ℚ :=
  match (priceOf fates source).filter fun price => price > 0 with
  | none => 0
  | some price => convertFeeUsd / price

def rawFee : ℕ := rawAmount source (feeDue fates source)

def FeeSent : Prop := 0 < feeDue fates source ∧ fates (.loadSigner .fee) = .ok ()

def feeFate : Delivery := fates (.sendFee source.address treasury (rawFee fates source))

/-- The fee leaves the wallet. -/
def FeeLands : Prop := FeeSent fates source ∧ (feeFate fates treasury source).Applies

def FeeHeard : Prop := FeeSent fates source ∧ feeFate fates treasury source = .answered

/-! ### The swap -/

/-- Gas is seen to, and native BNB is wrapped. -/
def Prepared : Prop :=
  if source.symbol = "BNB" then
    ∃ sellable, fates .readBnbBalances = .ok sellable ∧
      fates (.ensureWbnbForSell (sellAmountRawFromBalance
        (if min (rawAmount source amount) sellable > 0 then min (rawAmount source amount) sellable
        else sellable))) = .ok ()
  else fates .ensureNativeBnbForGas = .ok ()

def quoteOf (amountIn : ℕ) (path : List String) : Option QuotedPath :=
  match fates (.getAmountsOut amountIn path) with
  | .error _ => none
  | .ok amountsOut =>
    if amountsOut.getLast?.getD 0 = 0 then none else some ⟨path, amountsOut.getLast?.getD 0⟩

/-- The swap of an amount is sent, with an input and by a path: what is checked and asked before
holds. -/
structure SwapSent (amountIn : ℕ) (best : QuotedPath) : Prop where
  distinct : source.symbol ≠ destination.symbol
  positive : 0 < amount
  signed : fates (.loadSigner .swap) = .ok ()
  prepared : Prepared fates source amount
  held : ∃ balance, fates (.balanceOf (tokenRouterAddr source) .held) = .ok balance ∧
    amountIn = swapInput source amount balance
  nonzero : amountIn ≠ 0
  allowed : ∃ allowance, fates (.allowance (tokenRouterAddr source)) = .ok allowance ∧
    (allowance < amountIn → fates (.approve (tokenRouterAddr source)) = .ok ())
  quoted : bestQuote ((candidateConvertPaths source destination).filterMap
    (quoteOf fates amountIn)) = some best
  before : ∃ outBefore, fates (.balanceOf (outAddr destination) .before) = .ok outBefore

def swapFate (slippageBps : Option ℚ) (amountIn : ℕ) (best : QuotedPath) : Delivery :=
  fates (.swapExactTokensForTokens amountIn
    (best.expectedOut * (10000 - slippageOf slippageBps) / 10000) best.path)

/-- What the swap has brought can be read after it. -/
def ReadAfter : Prop :=
  ∃ outAfter, fates (.balanceOf (outAddr destination) .after) = .ok outAfter

structure SwapEnds (slippageBps : Option ℚ) (taken : Taken) (sent : ℕ × QuotedPath)
    (ran : Taken × Except String SwapResult) : Prop where
  lands : (swapFate fates slippageBps sent.1 sent.2).Applies →
    ran.1 = { taken with input := some sent.1 }
  stays : ¬ (swapFate fates slippageBps sent.1 sent.2).Applies → ran.1 = taken
  returns : (∃ swapped, ran.2 = .ok swapped) ↔
    swapFate fates slippageBps sent.1 sent.2 = .answered ∧ ReadAfter fates destination

end Fates

section Exec

variable {fates : (op : Op) → Fate op} {taken : Taken}

/-! ### Running the fee -/

theorem exec_await (op : Op) : (await op).exec fates taken = perform op (fates op) taken :=
  exec_perform _ _

theorem asks_await {op : Op} {answer : Except String (Result op)}
    (kept : perform op (fates op) taken = (taken, answer)) :
    (await op).Asks fates taken fun value => answer = .ok value := asks_perform kept

theorem exec_tokenPrice (source : BscToken) :
    (tokenPrice source).exec fates taken = (taken, .ok (priceOf fates source)) := by
  unfold tokenPrice priceOf
  split
  · rfl
  · exact exec_await _

theorem asks_feeTokens (source : BscToken) (amount : ℚ) :
    (bscConvertFeeTokens source amount).Asks fates taken fun feeTokens =>
      ¬ TooSmall fates source amount ∧ feeTokens = feeDue fates source := by
  unfold bscConvertFeeTokens TooSmall feeDue
  refine asks_bind_of_exec (exec_tokenPrice source) ?_
  cases (priceOf fates source).filter fun price => price > 0 with
  | none => exact (asks_of_exec rfl).congr (by simp)
  | some price =>
    dsimp only
    split
    · next small => exact .inr ⟨by simp [small], _, rfl⟩
    · next enough => exact (asks_of_exec rfl).congr (by simp [enough])

theorem exec_charge (treasury : String) (source : BscToken) :
    ∃ reached heard,
      (chargeBscConvertFee treasury source (feeDue fates source)).exec fates taken =
        (reached, heard) ∧
      (FeeLands fates treasury source →
        reached = { taken with fee := some (rawFee fates source) }) ∧
      (¬ FeeLands fates treasury source → reached = taken) ∧
      ((∃ hash, heard = .ok (some hash)) ↔ FeeHeard fates treasury source) := by
  unfold chargeBscConvertFee FeeLands FeeHeard FeeSent
  by_cases due : 0 < feeDue fates source
  · rw [if_pos due]
    have sent : (await (.sendFee source.address treasury (rawAmount source
        (feeDue fates source)))).exec fates taken =
        (feeFate fates treasury source).write taken
          { taken with fee := some (rawFee fates source) } "0xfee" := exec_await _
    cases signed : fates (.loadSigner .fee) with
    | error failure =>
      rw [exec_bind_error ((exec_await _).trans (congrArg (Prod.mk taken) signed))]
      exact ⟨taken, _, rfl, by simp⟩
    | ok answer =>
      rw [exec_bind_ok ((exec_await _).trans (congrArg (Prod.mk taken) signed))]
      cases fate : feeFate fates treasury source with
      | answered =>
        rw [fate] at sent
        rw [exec_bind_ok sent]
        exact ⟨_, _, rfl, by simp [due, Delivery.Applies]⟩
      | refused message =>
        rw [fate] at sent
        rw [exec_bind_error sent]
        exact ⟨_, _, rfl, by simp [Delivery.Applies]⟩
      | lost message =>
        rw [fate] at sent
        rw [exec_bind_error sent]
        exact ⟨_, _, rfl, by simp [due, Delivery.Applies]⟩
  · rw [if_neg due]
    exact ⟨taken, _, rfl, by simp [due]⟩

theorem exec_tryFee (treasury : String) (source : BscToken) :
    ∃ reached heard,
      (tryFee treasury source (feeDue fates source)).exec fates taken = (reached, .ok heard) ∧
      (FeeLands fates treasury source →
        reached = { taken with fee := some (rawFee fates source) }) ∧
      (¬ FeeLands fates treasury source → reached = taken) ∧
      (heard.isSome = true ↔ FeeHeard fates treasury source) := by
  obtain ⟨reached, heard, ran, lands, stays, isHeard⟩ := @exec_charge fates taken treasury source
  unfold tryFee
  rw [exec_recover, ran]
  cases heard with
  | error failure => exact ⟨reached, none, rfl, lands, stays, by simpa using isHeard⟩
  | ok heard =>
    refine ⟨reached, heard, rfl, lands, stays, ?_⟩
    rw [← isHeard, Option.isSome_iff_exists]
    exact exists_congr fun hash => ⟨congrArg Except.ok, Except.ok.inj⟩

/-! ### Running the swap -/

theorem exec_quotePath (amountIn : ℕ) (path : List String) :
    (quotePath amountIn path).exec fates taken = (taken, .ok (quoteOf fates amountIn path)) := by
  unfold quotePath quoteOf
  rw [exec_recover]
  cases asked : fates (.getAmountsOut amountIn path) with
  | error failure =>
    rw [exec_bind_error ((exec_await _).trans (congrArg (Prod.mk taken) asked))]
    rfl
  | ok amountsOut =>
    rw [exec_bind_ok ((exec_await _).trans (congrArg (Prod.mk taken) asked))]
    rfl

theorem exec_quotePaths (amountIn : ℕ) (paths : List (List String)) :
    (quotePaths amountIn paths).exec fates taken =
      (taken, .ok (paths.filterMap (quoteOf fates amountIn))) := by
  induction paths with
  | nil => rfl
  | cons path rest inductionHypothesis =>
    unfold quotePaths
    rw [exec_bind_ok (exec_quotePath amountIn path), exec_bind_ok inductionHypothesis,
      List.filterMap_cons]
    cases quoteOf fates amountIn path <;> rfl

theorem asks_quoteBestPath (amountIn : ℕ) (candidates : List (List String)) :
    (quoteBestPath amountIn candidates).Asks fates taken fun best =>
      bestQuote (candidates.filterMap (quoteOf fates amountIn)) = some best := by
  refine ((asks_throwIf _ _).bind fun _ _ => (asks_of_exec (exec_quotePaths amountIn
    candidates)).bind fun quotes _ => asks_orThrow (bestQuote quotes) _).congr fun best => ?_
  constructor
  · rintro ⟨-, -, quotes, rfl, isBest⟩
    exact isBest
  · intro isBest
    refine ⟨(), ?_, _, rfl, isBest⟩
    rintro rfl
    cases isBest

theorem asks_prepare (source : BscToken) (amount : ℚ) :
    (prepare source amount).Asks fates taken fun _ => Prepared fates source amount := by
  unfold prepare Prepared
  split
  · exact (asks_await rfl).bind fun sellable _ => asks_await rfl
  · exact asks_await rfl

theorem asks_ensureAllowance (inToken : String) (amountIn : ℕ) :
    (ensureAllowance inToken amountIn).Asks fates taken fun _ =>
      ∃ allowance, fates (.allowance inToken) = .ok allowance ∧
        (allowance < amountIn → fates (.approve inToken) = .ok ()) := by
  refine (asks_await rfl).bind fun allowance _ => ?_
  split
  · next short => exact (asks_await rfl).congr (by simp [short])
  · next covers => exact (asks_of_exec rfl).congr (by simp [covers])

theorem finds_swapTokens (source destination : BscToken) (amountIn : ℕ)
    (slippageBps : Option ℚ) :
    (swapTokens source destination amountIn slippageBps).Finds fates taken
      (fun sent => ∃ _ : Unit, (∃ allowance,
          fates (.allowance (tokenRouterAddr source)) = .ok allowance ∧
          (allowance < amountIn → fates (.approve (tokenRouterAddr source)) = .ok ())) ∧
        ∃ best, bestQuote ((candidateConvertPaths source destination).filterMap
          (quoteOf fates amountIn)) = some best ∧
        ∃ outBefore, fates (.balanceOf (outAddr destination) .before) = .ok outBefore ∧
          sent = (amountIn, best))
      (SwapEnds fates destination slippageBps taken) := by
  refine (asks_ensureAllowance _ amountIn).finds fun _ _ =>
    (asks_quoteBestPath amountIn _).finds fun best _ =>
      Asks.finds (asks_await rfl) fun outBefore _ => finds_of_exec (fun _ => Iff.rfl) ?_
  have swapped : (await (.swapExactTokensForTokens amountIn
      (best.expectedOut * (10000 - slippageOf slippageBps) / 10000) best.path)).exec fates taken =
      (swapFate fates slippageBps amountIn best).write taken { taken with input := some amountIn }
        "0xswap" := exec_await _
  cases fate : swapFate fates slippageBps amountIn best with
  | refused message =>
    rw [fate] at swapped
    rw [exec_bind_error swapped]
    exact ⟨by simp [fate, Delivery.Applies], fun _ => rfl, by simp [fate]⟩
  | lost message =>
    rw [fate] at swapped
    rw [exec_bind_error swapped]
    exact ⟨fun _ => rfl, by simp [fate, Delivery.Applies], by simp [fate]⟩
  | answered =>
    have answered : (swapFate fates slippageBps amountIn best).write taken
        { taken with input := some amountIn } "0xswap" =
          ({ taken with input := some amountIn }, .ok "0xswap") := by
      rw [fate]
      rfl
    rw [exec_bind_ok (swapped.trans answered)]
    cases read : fates (.balanceOf (outAddr destination) .after) with
    | error failure =>
      have ended := (@exec_await fates { taken with input := some amountIn }
        (.balanceOf (outAddr destination) .after)).trans (congrArg (Prod.mk _) read)
      rw [exec_bind_error ended]
      exact ⟨fun _ => rfl, by simp [fate, Delivery.Applies], by simp [ReadAfter, read]⟩
    | ok outAfter =>
      have ended := (@exec_await fates { taken with input := some amountIn }
        (.balanceOf (outAddr destination) .after)).trans (congrArg (Prod.mk _) read)
      rw [exec_bind_ok ended]
      exact ⟨fun _ => rfl, by simp [fate, Delivery.Applies], by simp [fate, ReadAfter, read]⟩

theorem finds_executeBscTokenSwap (source destination : BscToken) (amount : ℚ)
    (slippageBps : Option ℚ) :
    (executeBscTokenSwap source destination amount slippageBps).Finds fates taken
      (fun sent => SwapSent fates source destination amount sent.1 sent.2)
      (SwapEnds fates destination slippageBps taken) := by
  refine ((asks_throwIf _ _).finds fun _ _ => (asks_throwIf _ _).finds fun _ _ =>
    Asks.finds (asks_await rfl) fun _ _ => (asks_prepare source amount).finds fun _ _ =>
      Asks.finds (asks_await rfl) fun balance _ => (asks_throwIf _ _).finds fun _ _ =>
        finds_swapTokens source destination _ slippageBps).congr fun sent => ?_
  constructor
  · rintro ⟨_, distinct, _, positive, _, signed, _, prepared, balance, held, _, nonzero, _,
      allowed, best, quoted, outBefore, before, rfl⟩
    exact ⟨distinct, not_le.mp positive, signed, prepared, ⟨balance, held, rfl⟩, nonzero, allowed,
      quoted, ⟨outBefore, before⟩⟩
  · obtain ⟨amountIn, best⟩ := sent
    rintro ⟨distinct, positive, signed, prepared, ⟨balance, held, rfl⟩, nonzero, allowed, quoted,
      ⟨outBefore, before⟩⟩
    exact ⟨(), distinct, (), not_le.mpr positive, (), signed, (), prepared, balance, held, (),
      nonzero, (), allowed, best, quoted, outBefore, before, rfl⟩

/-- The history of converts fails nothing. -/
theorem exec_tryRecord (source destination : BscToken) (swapped : SwapResult) :
    (tryRecord source destination swapped).exec fates taken = (taken, .ok ()) := by
  unfold tryRecord
  rw [exec_recover, exec_await]
  cases fates (.recordWalletConvert source.symbol destination.symbol swapped.inAmount
    swapped.outAmount) <;> rfl

/-- What follows the fee takes what the swap takes, and returns just where the swap does. -/
theorem exec_convertRest (source destination : BscToken) (request : ConvertRequest)
    (feeTokens : ℚ) (feeTxHash : Option String) {reached : Taken}
    {swap : Except String SwapResult}
    (swapped : (executeBscTokenSwap source destination
      (if feeTxHash.isSome then request.amount - feeTokens else request.amount)
      request.slippageBps).exec fates taken = (reached, swap)) :
    ∃ result, (convertRest source destination request feeTokens feeTxHash).exec fates taken =
        (reached, result) ∧
      ((∃ converted, result = .ok converted) ↔ ∃ output, swap = .ok output) ∧
      ∀ converted, result = .ok converted →
        converted.feeUsd = if feeTxHash.isSome then convertFeeUsd else 0 := by
  unfold convertRest
  cases swap with
  | error failure =>
    rw [exec_bind_error swapped]
    exact ⟨_, rfl, by simp, by simp⟩
  | ok output =>
    rw [exec_bind_ok swapped, exec_bind_ok (exec_tryRecord source destination output)]
    refine ⟨_, rfl, by simp, ?_⟩
    intro converted returned
    rw [← Except.ok.inj returned]

end Exec

/-! ### The course of a convert -/

section Course

variable (fates : (op : Op) → Fate op) (treasury : String) (source destination : BscToken)
  (request : ConvertRequest)

instance : Decidable (FeeHeard fates treasury source) := by
  unfold FeeHeard FeeSent
  infer_instance

/-- What is left to swap. -/
def netAmount : ℚ :=
  if FeeHeard fates treasury source then request.amount - feeDue fates source
  else request.amount

abbrev Sends (input : ℕ) (best : QuotedPath) : Prop :=
  SwapSent fates source destination (netAmount fates treasury source request) input best

/-- How a fee in USD is counted in the source token. -/
def feeUnits (usd : ℚ) : ℕ :=
  rawAmount source (usd / ((priceOf fates source).filter fun price => price > 0).getD 0)

def course : Course where
  fee := rawFee fates source
  feeLands := FeeLands fates treasury source
  feeHeard := FeeHeard fates treasury source
  swapLands input := ∃ best, Sends fates treasury source destination request input best ∧
    (swapFate fates request.slippageBps input best).Applies
  returns := ∃ input best, Sends fates treasury source destination request input best ∧
    swapFate fates request.slippageBps input best = .answered ∧ ReadAfter fates destination
  paidFor := ∀ input best, Sends fates treasury source destination request input best →
    (((if FeeHeard fates treasury source then rawFee fates source else 0) + input : ℕ) : ℚ) ≤
      request.amount * 10 ^ source.decimals

variable {fates treasury source destination request}

theorem feeUnits_convertFeeUsd : feeUnits fates source convertFeeUsd = rawFee fates source := by
  unfold feeUnits rawFee feeDue
  cases (priceOf fates source).filter fun price => price > 0 <;> simp

theorem feeUnits_zero : feeUnits fates source 0 = 0 := by
  norm_num [feeUnits, rawAmount, Spot.parseUnits, Numeric.toFixed, Numeric.round]

theorem SwapSent.unique {amount : ℚ} {input other : ℕ} {best next : QuotedPath}
    (sent : SwapSent fates source destination amount input best)
    (again : SwapSent fates source destination amount other next) :
    input = other ∧ best = next := by
  obtain ⟨balance, isBalance, rfl⟩ := sent.held
  obtain ⟨same, isSame, rfl⟩ := again.held
  rw [isBalance] at isSame
  cases isSame
  exact ⟨rfl, Option.some.inj (sent.quoted.symm.trans again.quoted)⟩

structure SwapRun (fates : (op : Op) → Fate op) (source destination : BscToken) (amount : ℚ)
    (slippageBps : Option ℚ) (taken : Taken) (ran : Taken × Except String SwapResult) :
    Prop where
  fee : ran.1.fee = taken.fee
  input : ∀ input best, SwapSent fates source destination amount input best →
    (swapFate fates slippageBps input best).Applies → ran.1.input = some input
  noInput : (∀ input best, SwapSent fates source destination amount input best →
    ¬ (swapFate fates slippageBps input best).Applies) → ran.1.input = taken.input
  returned : (∃ output, ran.2 = .ok output) ↔
    ∃ input best, SwapSent fates source destination amount input best ∧
      swapFate fates slippageBps input best = .answered ∧ ReadAfter fates destination

theorem swapRun (amount : ℚ) (slippageBps : Option ℚ) (taken : Taken) :
    SwapRun fates source destination amount slippageBps taken
      ((executeBscTokenSwap source destination amount slippageBps).exec fates taken) := by
  obtain ⟨⟨input, best⟩, sent, lands, stays, returns⟩ | ⟨nothing, failure, failed⟩ :=
    @finds_executeBscTokenSwap fates taken source destination amount slippageBps
  · refine ⟨?_, ?_, ?_, ?_⟩
    · by_cases applies : (swapFate fates slippageBps input best).Applies
      · rw [lands applies]
      · rw [stays applies]
    · intro other next again applies
      obtain ⟨rfl, rfl⟩ := sent.unique again
      rw [lands applies]
    · intro never
      rw [stays (never input best sent)]
    · rw [returns]
      constructor
      · exact fun answered => ⟨input, best, sent, answered⟩
      · rintro ⟨other, next, again, answered⟩
        obtain ⟨rfl, rfl⟩ := sent.unique again
        exact answered
  · rw [failed]
    refine ⟨rfl, ?_, fun _ => rfl, ?_⟩
    · exact fun input best sent => absurd sent (nothing (input, best))
    · constructor
      · rintro ⟨output, returned⟩
        cases returned
      · rintro ⟨input, best, sent, -⟩
        exact absurd sent (nothing (input, best))

theorem course_describes (enough : ¬ TooSmall fates source request.amount) :
    (course fates treasury source destination request).Describes request.amount source.decimals
      (feeUnits fates source)
      ((convertFound treasury source destination request).exec fates untouched).1
      ((convertFound treasury source destination request).exec fates untouched).2 := by
  obtain ⟨charged, heard, tried, lands, stays, isHeard⟩ :=
    @exec_tryFee fates untouched treasury source
  have net : (if heard.isSome then request.amount - feeDue fates source else request.amount) =
      netAmount fates treasury source request := by
    simp only [netAmount, isHeard]
  have swap := @swapRun fates source destination (netAmount fates treasury source request)
    request.slippageBps charged
  rcases swapped : (executeBscTokenSwap source destination (netAmount fates treasury source request)
    request.slippageBps).exec fates charged with ⟨taken, output⟩
  rw [swapped] at swap
  obtain ⟨result, rest, returned, feeUsd⟩ := exec_convertRest source destination request
    (feeDue fates source) heard (net.symm ▸ swapped)
  have ran : (convertFound treasury source destination request).exec fates untouched =
      (taken, result) := by
    unfold convertFound
    rw [exec_bind_ok ((asks_feeTokens source request.amount).returns ⟨enough, rfl⟩),
      exec_bind_ok tried]
    exact rest
  have fee (feeLands : FeeLands fates treasury source) :
      taken.fee.getD 0 = rawFee fates source := by
    rw [swap.fee, lands feeLands]
    rfl
  have noFee (unpaid : ¬ FeeLands fates treasury source) : taken.fee.getD 0 = 0 := by
    rw [swap.fee, stays unpaid]
    rfl
  have noInput : charged.input = none := by
    by_cases feeLands : FeeLands fates treasury source
    · rw [lands feeLands]
      rfl
    · rw [stays feeLands]
      rfl
  rw [ran]
  refine
    { lands := fun isHeard => ⟨isHeard.1, by rw [isHeard.2]; trivial⟩
      positive := fun input ⟨best, sent, _⟩ => Nat.pos_of_ne_zero sent.nonzero
      fee := fee
      noFee := noFee
      input := fun input ⟨best, sent, applies⟩ => by rw [swap.input input best sent applies]; rfl
      noInput := ?_
      returned := returned.trans swap.returned
      reportsFee := ?_
      reportsNone := ?_
      paidFor := ?_ }
  · intro never
    rw [swap.noInput fun input best sent applies => never input ⟨best, sent, applies⟩, noInput]
    rfl
  · intro feeHeard converted isResult
    rw [feeUsd converted isResult, if_pos (isHeard.mpr feeHeard), feeUnits_convertFeeUsd]
    rfl
  · intro unheard converted isResult
    rw [feeUsd converted isResult, if_neg fun isSome => unheard (isHeard.mp isSome), feeUnits_zero]
  · rintro ⟨input, best, sent, answered, -⟩ heardOf
    have isFee : taken.fee.getD 0 =
        if FeeHeard fates treasury source then rawFee fates source else 0 := by
      split
      · next feeHeard => exact fee ⟨feeHeard.1, by rw [feeHeard.2]; trivial⟩
      · next unheard => exact Course.taken_of_unheard fee noFee heardOf unheard
    have isInput : taken.input.getD 0 = input := by
      rw [swap.input input best sent (by rw [answered]; trivial)]
      rfl
    unfold Taken.total
    rw [isFee, isInput]
    constructor
    · exact fun paid _ => paid input best sent
    · intro bounded other next again
      obtain ⟨rfl, rfl⟩ := sent.unique again
      exact bounded (Nat.add_pos_right _ (Nat.pos_of_ne_zero sent.nonzero))

theorem honest_convertFound :
    Honest request.amount source.decimals (feeUnits fates source)
        ((convertFound treasury source destination request).exec fates untouched).1
        ((convertFound treasury source destination request).exec fates untouched).2 ↔
      (¬ TooSmall fates source request.amount →
        (course fates treasury source destination request).Sound) := by
  by_cases small : TooSmall fates source request.amount
  · obtain ⟨failure, failed⟩ := (@asks_feeTokens fates untouched source request.amount).fails
      fun _ answered => answered.1 small
    have ran : (convertFound treasury source destination request).exec fates untouched =
        (untouched, .error failure) := exec_bind_error failed
    rw [ran]
    exact iff_of_true (honest_untouched _ _ _ _) fun enough => absurd small enough
  · rw [(course_describes small).honest_iff]
    exact ⟨fun sound _ => sound, fun sound => sound small⟩

variable (fates treasury request)

/-- A convert on BSC takes what it may. -/
def HonestConvert : Prop :=
  Honest request.amount ((findToken request.source.toUpper).elim 0 (·.decimals))
    ((findToken request.source.toUpper).elim (fun _ => 0) (feeUnits fates))
    ((convertBscTokens treasury request).exec fates untouched).1
    ((convertBscTokens treasury request).exec fates untouched).2

/-- Once the amount is found not to be too small, the convert runs a sound course. -/
def Settles : Prop :=
  ∀ source destination, findToken request.source.toUpper = some source →
    findToken request.destination.toUpper = some destination →
      ¬ TooSmall fates source request.amount →
        (course fates treasury source destination request).Sound

/-- A convert on BSC takes what it may just where it settles. -/
theorem honestConvert_iff_settles :
    HonestConvert fates treasury request ↔ Settles fates treasury request := by
  unfold HonestConvert Settles convertBscTokens findBscToken
  cases isSource : findToken request.source.toUpper with
  | none => exact iff_of_true (honest_untouched _ _ _ _) (by simp)
  | some source =>
    cases isDestination : findToken request.destination.toUpper with
    | none => exact iff_of_true (honest_untouched _ _ _ _) (by simp)
    | some destination =>
      refine honest_convertFound.trans ⟨?_, fun settles => settles source destination rfl rfl⟩
      intro sound other next isOther isNext
      cases isOther
      cases isNext
      exact sound

end Course

end GdslExchange.Convert.Bsc
