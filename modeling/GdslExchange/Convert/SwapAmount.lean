/-
This file settles which amount of a token the swap of a convert hands to the router, beside a sell
of the personal wallet: both round the amount before they compare it with the balance.
-/

import GdslExchange.Convert.BscTaking
import GdslExchange.Spot.SellAmount

namespace GdslExchange.Convert.Bsc

open Async.Program
open Numeric
open Spot (BscToken PersonalSwapRequest KeepsToAmount SellsWithin bestQuote findToken
  sellAmountRawFromBalance sellAmountRawFromBalance_le sellsWithin_iff)

/-! ### A wallet and a router that refuse nothing -/

/-- The wallet holds a balance of every token, and every path brings something. -/
def willing (balance : ℕ) : (op : Op) → Fate op
  | .fetchBinancePrice _ => none
  | .loadSigner _ => .ok ()
  | .sendFee _ _ _ => .answered
  | .ensureNativeBnbForGas => .ok ()
  | .readBnbBalances => .ok balance
  | .ensureWbnbForSell _ => .ok ()
  | .balanceOf _ _ => .ok balance
  | .allowance _ => .ok 0
  | .approve _ => .ok ()
  | .getAmountsOut _ _ => .ok [1]
  | .swapExactTokensForTokens _ _ _ => .answered
  | .recordWalletConvert _ _ _ _ => .ok ()

section Swap

variable {source destination : BscToken} {amount : ℚ} {balance : ℕ}

/-- The tokens differ, and so do their contracts. -/
structure Routed (source destination : BscToken) : Prop where
  distinct : source.symbol ≠ destination.symbol
  connected : (tokenRouterAddr source).toLower ≠ (tokenRouterAddr destination).toLower

/-- Of one path or more, at least one is left. -/
theorem dedupPaths_ne_nil (path : List String) (rest : List (List String)) :
    dedupPaths (path :: rest) ≠ [] := by
  have kept (seen paths : List (List String)) (some : seen ≠ []) :
      paths.foldl (fun seen path =>
        if seen.any fun other => other.map String.toLower = path.map String.toLower then seen
        else seen ++ [path]) seen ≠ [] := by
    induction paths generalizing seen with
    | nil => exact some
    | cons next later inductionHypothesis =>
      refine inductionHypothesis _ ?_
      dsimp only
      split
      · exact some
      · exact List.append_ne_nil_of_right_ne_nil _ (List.cons_ne_nil _ _)
  exact kept [path] rest (List.cons_ne_nil _ _)

theorem candidateConvertPaths_ne_nil : candidateConvertPaths source destination ≠ [] ↔
    (tokenRouterAddr source).toLower ≠ (tokenRouterAddr destination).toLower := by
  unfold candidateConvertPaths
  dsimp only
  split
  · next same => exact iff_of_false (fun some => some rfl) fun differ => differ same
  · next differ => exact iff_of_true (dedupPaths_ne_nil _ _) differ

theorem willing_quotes (routed : Routed source destination) (amountIn : ℕ) :
    ∃ best, bestQuote ((candidateConvertPaths source destination).filterMap
      (quoteOf (willing balance) amountIn)) = some best := by
  obtain ⟨path, rest, isPaths⟩ :=
    List.exists_cons_of_ne_nil (candidateConvertPaths_ne_nil.mpr routed.connected)
  rw [isPaths]
  exact ⟨_, rfl⟩

theorem swapSent_willing (routed : Routed source destination) (positive : 0 < amount)
    (someInput : swapInput source amount balance ≠ 0) :
    ∃ best, SwapSent (willing balance) source destination amount (swapInput source amount balance)
      best := by
  obtain ⟨best, quoted⟩ := @willing_quotes source destination balance routed
    (swapInput source amount balance)
  refine ⟨best, routed.distinct, positive, rfl, ?_, ⟨balance, rfl, rfl⟩, someInput,
    ⟨0, rfl, fun _ => rfl⟩, quoted, balance, rfl⟩
  unfold Prepared
  split
  · exact ⟨balance, rfl, rfl⟩
  · rfl

theorem SwapSent.routed {fates : (op : Op) → Fate op} {amountIn : ℕ} {best : Spot.QuotedPath}
    (sent : SwapSent fates source destination amount amountIn best) :
    Routed source destination := by
  refine ⟨sent.distinct, candidateConvertPaths_ne_nil.mp fun none => ?_⟩
  have quoted := sent.quoted
  rw [none] at quoted
  cases quoted

/-! ### When a swap keeps to its amount -/

/-- What a swap takes is at most its amount, in the smallest unit of the token, and at most the
balance that the wallet holds of it. -/
def SwapsWithin (source destination : BscToken) (amount : ℚ) (slippageBps : Option ℚ)
    (balance : ℕ) : Prop :=
  ∀ fates : (op : Op) → Fate op, fates (.balanceOf (tokenRouterAddr source) .held) = .ok balance →
    ∀ input, ((executeBscTokenSwap source destination amount slippageBps).exec fates
        untouched).1.input = some input →
      (input : ℚ) ≤ amount * 10 ^ source.decimals ∧ input ≤ balance

/-- What is swapped where the rounded amount exceeds the balance. -/
def swapLimit (source : BscToken) (balance : ℕ) : ℕ :=
  if source.symbol = "BNB" then sellAmountRawFromBalance balance else balance

/-- The rounded amount is no more than the amount, or exceeds the balance, which is no more. -/
def RoundsWithin (source : BscToken) (amount : ℚ) (balance : ℕ) : Prop :=
  let units := amount * 10 ^ source.decimals
  (rawAmount source amount : ℚ) ≤ units ∨
    balance < rawAmount source amount ∧ (swapLimit source balance : ℚ) ≤ units

theorem swapLimit_le (source : BscToken) (balance : ℕ) : swapLimit source balance ≤ balance := by
  unfold swapLimit
  split
  · exact sellAmountRawFromBalance_le balance
  · exact le_rfl

theorem swapInput_le (source : BscToken) (amount : ℚ) (balance : ℕ) :
    swapInput source amount balance ≤ balance := by
  show (if rawAmount source amount > balance then swapLimit source balance
    else rawAmount source amount) ≤ balance
  split
  · exact swapLimit_le source balance
  · next covered => exact Nat.le_of_not_gt covered

theorem roundsWithin_iff : RoundsWithin source amount balance ↔
    (swapInput source amount balance : ℚ) ≤ amount * 10 ^ source.decimals := by
  show _ ↔ ((if rawAmount source amount > balance then swapLimit source balance
    else rawAmount source amount : ℕ) : ℚ) ≤ _
  by_cases exceeds : rawAmount source amount > balance
  · rw [if_pos exceeds]
    refine ⟨?_, fun within => .inr ⟨exceeds, within⟩⟩
    rintro (within | ⟨-, within⟩)
    · have ordered := (swapLimit_le source balance).trans (Nat.le_of_lt exceeds)
      exact le_trans (by exact_mod_cast ordered) within
    · exact within
  · rw [if_neg exceeds]
    exact or_iff_left fun beyond => exceeds beyond.1

theorem swapsWithin_iff (positive : 0 < amount) (slippageBps : Option ℚ) :
    SwapsWithin source destination amount slippageBps balance ↔
      (Routed source destination → RoundsWithin source amount balance) := by
  rw [roundsWithin_iff]
  constructor
  · intro keeps routed
    by_cases someInput : swapInput source amount balance = 0
    · rw [someInput]
      exact_mod_cast (by positivity : (0 : ℚ) ≤ amount * 10 ^ source.decimals)
    · obtain ⟨best, sent⟩ := swapSent_willing routed positive someInput
      have ran := @swapRun (willing balance) source destination amount slippageBps untouched
      exact (keeps (willing balance) rfl _ (ran.input _ best sent trivial)).1
  · intro rounds fates isHeld input isInput
    have ran := @swapRun fates source destination amount slippageBps untouched
    by_cases swapped : ∃ sized best, SwapSent fates source destination amount sized best ∧
        (swapFate fates slippageBps sized best).Applies
    · obtain ⟨sized, best, sent, applies⟩ := swapped
      rw [ran.input sized best sent applies] at isInput
      obtain rfl := Option.some.inj isInput
      obtain ⟨held, isRead, rfl⟩ := sent.held
      obtain rfl := Except.ok.inj (isRead.symm.trans isHeld)
      exact ⟨rounds sent.routed, swapInput_le source amount held⟩
    · rw [ran.noInput fun sized best sent applies => swapped ⟨sized, best, sent, applies⟩] at isInput
      cases isInput

/-! ### Sells and swaps -/

/-- A sell of the personal wallet keeps to its amount and to the balance, and so does the swap of a
convert, just where the rounding, the cushion and the fallback to the whole balance do. -/
theorem sellsAndSwapsWithin_iff {request : PersonalSwapRequest} {sellable : ℕ}
    (isSell : request.side = .sell) (someRequest : 0 < request.amount) (someAmount : 0 < amount)
    (slippageBps : Option ℚ) :
    (SellsWithin request sellable ↔
      ∀ token, findToken request.tokenSymbol.toUpper = some token → token.symbol ≠ "USDT" →
        KeepsToAmount request token.decimals sellable) ∧
    (SwapsWithin source destination amount slippageBps balance ↔
      (Routed source destination → RoundsWithin source amount balance)) :=
  ⟨sellsWithin_iff isSell someRequest, swapsWithin_iff someAmount slippageBps⟩

end Swap

/-! ### A sell of dust -/

def doge : BscToken := ⟨"DOGE", some "0xba2ae424d960c26247dd6c32edc70b295c744c43", 8⟩

def usdt : BscToken := ⟨"USDT", some Spot.usdtAddr, 18⟩

theorem sellsAndSwapsWithin_tenDoge :
    (SellsWithin { side := .sell, tokenSymbol := "DOGE", amount := 10 } 10000000000 ↔
      ∀ token, findToken "DOGE".toUpper = some token → token.symbol ≠ "USDT" →
        KeepsToAmount { side := .sell, tokenSymbol := "DOGE", amount := 10 } token.decimals
          10000000000) ∧
    (SwapsWithin doge usdt 10 none 10000000000 ↔
      (Routed doge usdt → RoundsWithin doge 10 10000000000)) :=
  sellsAndSwapsWithin_iff rfl (by norm_num) (by norm_num) none

/-- A sell of a billionth of a DOGE sells all hundred of them, and a swap of six billionths takes a
hundred-millionth. -/
theorem not_sellsAndSwapsWithin :
    ¬ SellsWithin { side := .sell, tokenSymbol := "DOGE", amount := 1 / 10 ^ 9 } 10000000000 ∧
    ¬ SwapsWithin doge usdt (6 / 10 ^ 9) none 10000000000 := by
  constructor
  · intro keeps
    have sold : Spot.Op.swapExactTokensForTokens 9985000000 0
        ["0xba2ae424d960c26247dd6c32edc70b295c744c43", Spot.usdtAddr] ∈
          (Spot.executePersonalSwap
            { side := .sell, tokenSymbol := "DOGE", amount := 1 / 10 ^ 9 }).trace
            (Spot.willing 10000000000) [] := by decide +kernel
    have within := (keeps doge (by decide +kernel) (Spot.willing 10000000000) [] rfl _ _ _ sold).1
    norm_num [doge] at within
  · intro keeps
    have routed : Routed doge usdt := ⟨by decide, by decide +kernel⟩
    have isInput : swapInput doge (6 / 10 ^ 9) 10000000000 = 1 := by decide +kernel
    obtain ⟨best, sent⟩ := @swapSent_willing doge usdt (6 / 10 ^ 9) 10000000000 routed
      (by norm_num) (isInput.trans_ne one_ne_zero)
    have ran := @swapRun (willing 10000000000) doge usdt (6 / 10 ^ 9) none untouched
    have within := (keeps (willing 10000000000) rfl _ (ran.input _ best sent trivial)).1
    rw [isInput] at within
    norm_num [doge] at within

end GdslExchange.Convert.Bsc
