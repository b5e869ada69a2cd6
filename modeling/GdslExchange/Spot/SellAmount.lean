/-
This file settles which amount of a token a sell of the personal wallet passes on to the router.

The amount is written with at most twelve places before it is parsed, and an amount that is
rounded to nothing stands for the whole balance. So a sell keeps to the amount where the rounded
amount does, less the cushion, or where the balance does.
-/

import GdslExchange.Async.Trace
import GdslExchange.Spot.PersonalWallet

namespace GdslExchange.Spot

open Async.Program
open Jupiter (Side Trade)
open Numeric

/-! ### The cushion -/

theorem sellAmountRawFromBalance_le (balanceRaw : ℕ) :
    sellAmountRawFromBalance balanceRaw ≤ balanceRaw := by
  unfold sellAmountRawFromBalance
  split <;> omega

theorem sellAmountRawFromBalance_mono : Monotone sellAmountRawFromBalance := by
  intro less more ordered
  unfold sellAmountRawFromBalance
  split <;> split <;> omega

/-! ### The operations of a sell -/

/-- The operation hands nothing to the router. -/
def NoSwap : Op → Prop
  | .swapExactTokensForTokens _ _ _ => False
  | _ => True

theorem noSwap_await {op : Op} (other : NoSwap op) : (await op).Only NoSwap := only_perform other

theorem noSwap_wrapForSell (token : BscToken) (request : PersonalSwapRequest) :
    (wrapForSell token request).Only NoSwap := by
  unfold wrapForSell
  split
  · exact only_then trivial fun _ => noSwap_await trivial
  · trivial

theorem noSwap_quotePaths (amountIn : ℕ) (candidates : List (List String)) :
    (quotePaths amountIn candidates).Only NoSwap := by
  induction candidates with
  | nil => trivial
  | cons path rest inductionHypothesis =>
    refine only_bind (only_recover ?_ fun _ => trivial) fun _ =>
      only_bind inductionHypothesis fun _ => trivial
    exact only_then trivial fun _ => trivial

theorem noSwap_counterBalance (counter : Option String) (reading : Reading) :
    (counterBalance counter reading).Only NoSwap := by
  cases counter with
  | none => trivial
  | some address => exact noSwap_await trivial

theorem noSwap_ensureAllowance (inToken : String) (amountIn : ℕ) :
    (ensureAllowance inToken amountIn).Only NoSwap := by
  refine only_then trivial fun current => ?_
  split
  · exact noSwap_await trivial
  · trivial

theorem noSwap_recordPersonalSwap (request : PersonalSwapRequest) (pair : String) (fill : Fill) :
    (recordPersonalSwap request pair fill).Only NoSwap := by
  refine only_then trivial fun _ => ?_
  split
  · exact only_then trivial fun _ => trivial
  · refine only_bind ?_ fun openPos? => ?_
    · unfold positionToClose
      split
      · exact noSwap_await trivial
      · exact noSwap_await trivial
    · split
      · exact only_then trivial fun _ => trivial
      · exact only_then trivial fun _ => trivial

/-! ### What is passed on -/

section Sell

variable {request : PersonalSwapRequest} {balance amountIn minOut : ℕ} {path : List String}
  {fates : (op : Op) → Fate op} {trades : List Trade}

theorem asks_checkBalance (token : BscToken) (isSell : request.side = .sell)
    (inDecimals balance amountIn : ℕ) :
    (checkBalance token request inDecimals balance amountIn).Asks fates trades fun _ =>
      0 < amountIn ∧ amountIn ≤ balance := by
  refine ((asks_throwIf _ _).bind fun _ _ => asks_throwIf _ _).congr fun _ => ?_
  rw [isSell]
  simp [Nat.pos_iff_ne_zero]

theorem noSwap_checkBalance (token : BscToken) (inDecimals balance amountIn : ℕ) :
    (checkBalance token request inDecimals balance amountIn).Only NoSwap :=
  only_bind only_throwIf fun _ => only_throwIf

theorem noSwap : ¬ NoSwap (.swapExactTokensForTokens amountIn minOut path) := id

/-- The operation hands nothing but the amount to the router. -/
def OnlySwap (amountIn : ℕ) : Op → Prop
  | .swapExactTokensForTokens input _ _ => input = amountIn
  | _ => True

theorem onlySwap_of_noSwap {Value : Type} {program : Call Value} (only : program.Only NoSwap) :
    program.Only (OnlySwap amountIn) := by
  refine only.mono fun op none => ?_
  cases op with
  | swapExactTokensForTokens input minOut path => exact none.elim
  | _ => trivial

theorem onlySwap_swapOnPancake (token : BscToken) (request : PersonalSwapRequest)
    (inDecimals amountIn : ℕ) :
    (swapOnPancake token request inDecimals amountIn).Only (OnlySwap amountIn) := by
  have kept {op : Op} (other : NoSwap op) : (await op).Only (OnlySwap amountIn) :=
    onlySwap_of_noSwap (noSwap_await other)
  have counter (reading : Reading) :
      (counterBalance (ledgerCounterAddress token) reading).Only (OnlySwap amountIn) :=
    onlySwap_of_noSwap (noSwap_counterBalance _ reading)
  refine only_bind (only_bind (onlySwap_of_noSwap (noSwap_quotePaths _ _)) fun _ =>
    only_orThrow) fun best => ?_
  refine only_bind (kept trivial) fun _ => only_bind (counter _) fun _ => ?_
  refine only_then rfl fun _ => only_bind (kept trivial) fun _ => ?_
  exact only_bind (kept trivial) fun _ => only_bind (counter _) fun _ => trivial

theorem passed_of_swap {token : BscToken}
    (isToken : findToken request.tokenSymbol.toUpper = some token) (isSell : request.side = .sell)
    (isHeld : fates (.balanceOf (token.address.getD wbnbAddr) .held) = .ok balance)
    (member : Op.swapExactTokensForTokens amountIn minOut path ∈
      (executePersonalSwap request).trace fates trades) :
    token.symbol ≠ "USDT" ∧ swapAmount request token.decimals balance = .ok amountIn ∧
      amountIn ≤ balance := by
  replace member := mem_trace_first (fun fill => noSwap_recordPersonalSwap request _ fill) id member
  obtain ⟨-, -, member⟩ := ((asks_throwIf _ _).mem_trace_iff only_throwIf noSwap).mp member
  obtain ⟨-, -, member⟩ := ((asks_throwIf _ _).mem_trace_iff only_throwIf noSwap).mp member
  obtain ⟨found, isFound, member⟩ := ((asks_orThrow _ _).mem_trace_iff only_orThrow noSwap).mp member
  obtain rfl := Option.some.inj (isFound.symm.trans isToken)
  obtain ⟨-, other, member⟩ := ((asks_throwIf _ _).mem_trace_iff only_throwIf noSwap).mp member
  obtain ⟨_, _, -, member⟩ := mem_trace_second (@noSwap_await .loadSigner trivial) noSwap member
  have inDecimals : (if request.side = .buy then 18 else found.decimals) = found.decimals := by
    simp [isSell]
  have inToken : (if request.side = .buy then usdtAddr else found.address.getD wbnbAddr) =
      found.address.getD wbnbAddr := by
    simp [isSell]
  rw [inDecimals, inToken] at member
  obtain ⟨_, _, -, member⟩ := mem_trace_second (noSwap_wrapForSell _ _) noSwap member
  obtain ⟨held, isRead, member⟩ := (Asks.mem_trace_iff (asks_perform rfl)
    (@noSwap_await (.balanceOf (found.address.getD wbnbAddr) .held) trivial) noSwap).mp member
  obtain rfl := Except.ok.inj (isRead.symm.trans isHeld)
  obtain ⟨sized, isSized, member⟩ :=
    ((asks_ofExcept _).mem_trace_iff only_ofExcept noSwap).mp member
  obtain ⟨-, checked, member⟩ := ((asks_checkBalance found isSell _ _ _).mem_trace_iff
    (noSwap_checkBalance _ _ _ _) noSwap).mp member
  obtain ⟨_, _, -, member⟩ := mem_trace_second (noSwap_ensureAllowance _ _) noSwap member
  obtain rfl := (onlySwap_swapOnPancake found request _ sized).of_mem_trace member
  exact ⟨other, isSized, checked.2⟩

/-! ### A wallet and a router that refuse nothing -/

/-- The wallet holds a balance of every token, and every path brings something. -/
def willing (balance : ℕ) : (op : Op) → Fate op
  | .ensureStrategyId => .answered
  | .findOpenTradesOf _ => .answered
  | .findOpenTrade _ => .answered
  | .findOpenTradeWithId _ _ => .answered
  | .updateTrade _ _ => .answered
  | .createTrade _ => .answered
  | .loadSigner => .ok ()
  | .readBnbBalances => .ok balance
  | .ensureWbnbForSell _ => .ok ()
  | .balanceOf _ _ => .ok balance
  | .allowance _ => .ok 0
  | .approve _ => .ok ()
  | .getAmountsOut _ _ => .ok [1]
  | .swapExactTokensForTokens _ _ _ => .ok "0xswap"
  | .waitForReceipt _ => .ok ()
  | .getUserBinanceConnection => .ok none
  | .getParsedSymbolRules _ => .error "unused"
  | .placeOrder _ => .error "unused"
  | .fetchBookTicker _ => .ok none
  | .quoteBinanceSpotForUser _ _ _ => .error "unused"

theorem exec_willing_quoteBestPath (token : BscToken) (side : Side) (amountIn : ℕ) :
    ∃ best, (quoteBestPath amountIn (candidateSwapPaths token side)).exec (willing balance) trades =
      (trades, .ok best) := by
  unfold candidateSwapPaths
  cases token.address with
  | none => cases side <;> exact ⟨_, rfl⟩
  | some address => cases side <;> exact ⟨_, rfl⟩

theorem exec_willing_counterBalance (counter : Option String) (reading : Reading) :
    ∃ counted, (counterBalance counter reading).exec (willing balance) trades =
      (trades, .ok counted) := by
  cases counter <;> exact ⟨_, rfl⟩

theorem exec_willing_wrapForSell (token : BscToken) :
    (wrapForSell token request).exec (willing balance) trades = (trades, .ok ()) := by
  unfold wrapForSell
  split <;> rfl

theorem exec_willing_ensureAllowance (inToken : String) (amountIn : ℕ) :
    (ensureAllowance inToken amountIn).exec (willing balance) trades = (trades, .ok ()) := by
  show (if 0 < amountIn then await (.approve inToken) else pure ()).exec (willing balance) trades = _
  split <;> rfl

theorem swapOnPancake_swaps (token : BscToken) (request : PersonalSwapRequest)
    (inDecimals amountIn : ℕ) : ∃ minOut path, Op.swapExactTokensForTokens amountIn minOut path ∈
      (swapOnPancake token request inDecimals amountIn).trace (willing balance) trades := by
  obtain ⟨best, quoted⟩ := @exec_willing_quoteBestPath balance trades token request.side amountIn
  obtain ⟨counted, read⟩ :=
    @exec_willing_counterBalance balance trades (ledgerCounterAddress token) .before
  refine ⟨best.expectedOut * (10000 - slippageOf request.slippageBps) / 10000, best.path, ?_⟩
  refine mem_trace_bind_ok quoted ?_
  refine mem_trace_bind_ok (exec_perform _ _) (mem_trace_bind_ok read ?_)
  exact mem_trace_bind mem_trace_perform

theorem swap_of_passed {token : BscToken} (trades : List Trade)
    (isToken : findToken request.tokenSymbol.toUpper = some token) (isSell : request.side = .sell)
    (positive : 0 < request.amount) (other : token.symbol ≠ "USDT")
    (isSized : swapAmount request token.decimals balance = .ok amountIn) (someAmount : 0 < amountIn)
    (covered : amountIn ≤ balance) :
    ∃ minOut path, Op.swapExactTokensForTokens amountIn minOut path ∈
      (executePersonalSwap request).trace (willing balance) trades := by
  have named : ¬ request.tokenSymbol = "" := by
    intro nameless
    rw [nameless, show findToken "".toUpper = none by decide +kernel] at isToken
    cases isToken
  obtain ⟨minOut, path, swaps⟩ :=
    @swapOnPancake_swaps balance trades token request token.decimals amountIn
  refine ⟨minOut, path, mem_trace_bind ?_⟩
  refine ((asks_throwIf _ _).mem_trace_iff only_throwIf noSwap).mpr ⟨(), named, ?_⟩
  refine ((asks_throwIf _ _).mem_trace_iff only_throwIf noSwap).mpr ⟨(), not_le.mpr positive, ?_⟩
  refine ((asks_orThrow _ _).mem_trace_iff only_orThrow noSwap).mpr ⟨token, isToken, ?_⟩
  refine ((asks_throwIf _ _).mem_trace_iff only_throwIf noSwap).mpr ⟨(), other, ?_⟩
  have inDecimals : (if request.side = .buy then 18 else token.decimals) = token.decimals := by
    simp [isSell]
  have inToken : (if request.side = .buy then usdtAddr else token.address.getD wbnbAddr) =
      token.address.getD wbnbAddr := by
    simp [isSell]
  rw [inDecimals, inToken]
  refine mem_trace_bind_ok (exec_perform _ _) ?_
  refine mem_trace_bind_ok (exec_willing_wrapForSell token) ?_
  refine mem_trace_bind_ok (exec_perform _ _) ?_
  refine ((asks_ofExcept _).mem_trace_iff only_ofExcept noSwap).mpr ⟨amountIn, isSized, ?_⟩
  refine ((asks_checkBalance token isSell _ _ _).mem_trace_iff
    (noSwap_checkBalance _ _ _ _) noSwap).mpr ⟨(), ⟨someAmount, covered⟩, ?_⟩
  exact mem_trace_bind_ok (exec_willing_ensureAllowance _ _) swaps

/-! ### When a sell keeps to its amount -/

/-- What a sell passes on to the router is at most its amount, in the smallest unit of the token,
and at most the balance that the wallet holds of it. -/
def SellsWithin (request : PersonalSwapRequest) (balance : ℕ) : Prop :=
  ∀ token, findToken request.tokenSymbol.toUpper = some token →
    ∀ (fates : (op : Op) → Fate op) (trades : List Trade),
      fates (.balanceOf (token.address.getD wbnbAddr) .held) = .ok balance →
      ∀ amountIn minOut path, Op.swapExactTokensForTokens amountIn minOut path ∈
        (executePersonalSwap request).trace fates trades →
        (amountIn : ℚ) ≤ request.amount * 10 ^ token.decimals ∧ amountIn ≤ balance

/-- `parseUnits` of the amount, written with at most twelve places. -/
def roundedAmount (request : PersonalSwapRequest) (decimals : ℕ) : ℕ :=
  parseUnits (toFixed (min 12 decimals) request.amount) decimals

/-- A raw amount is no more than the amount, or exceeds the balance and the balance less its cushion
is no more. Without one, the balance less its cushion is no more than the amount, or the rounded
amount is not zero and less its cushion no more. -/
def KeepsToAmount (request : PersonalSwapRequest) (decimals balance : ℕ) : Prop :=
  let units := request.amount * 10 ^ decimals
  match request.rawAmount with
  | some raw => (raw : ℚ) ≤ units ∨ balance < raw ∧ (sellAmountRawFromBalance balance : ℚ) ≤ units
  | none => (sellAmountRawFromBalance balance : ℚ) ≤ units ∨
      0 < roundedAmount request decimals ∧
        (sellAmountRawFromBalance (roundedAmount request decimals) : ℚ) ≤ units

/-- `desired`, or the balance where it is zero. -/
def desiredAmount (rounded balance : ℕ) : ℕ :=
  let desired := if rounded > balance then balance else rounded
  if desired > 0 then desired else balance

theorem desiredAmount_le (rounded balance : ℕ) : desiredAmount rounded balance ≤ balance := by
  unfold desiredAmount
  dsimp only
  split <;> split <;> omega

theorem desiredAmount_within (rounded balance : ℕ) (units : ℚ) :
    (sellAmountRawFromBalance (desiredAmount rounded balance) : ℚ) ≤ units ↔
      (sellAmountRawFromBalance balance : ℚ) ≤ units ∨
        0 < rounded ∧ (sellAmountRawFromBalance rounded : ℚ) ≤ units := by
  have smaller {less more : ℕ} (ordered : less ≤ more)
      (within : (sellAmountRawFromBalance more : ℚ) ≤ units) :
      (sellAmountRawFromBalance less : ℚ) ≤ units :=
    le_trans (by exact_mod_cast sellAmountRawFromBalance_mono ordered) within
  have wholeOrPart : desiredAmount rounded balance = balance ∧ (rounded = 0 ∨ balance ≤ rounded) ∨
      desiredAmount rounded balance = rounded ∧ 0 < rounded ∧ rounded ≤ balance := by
    unfold desiredAmount
    dsimp only
    split <;> split <;> omega
  obtain ⟨whole, none | exceeds⟩ | ⟨part, someAmount, covered⟩ := wholeOrPart
  · rw [whole, none]
    exact (or_iff_left fun some => lt_irrefl 0 some.1).symm
  · rw [whole]
    refine ⟨.inl, ?_⟩
    rintro (within | ⟨-, within⟩)
    · exact within
    · exact smaller exceeds within
  · rw [part]
    refine ⟨fun within => .inr ⟨someAmount, within⟩, ?_⟩
    rintro (within | ⟨-, within⟩)
    · exact smaller covered within
    · exact within

/-- The amount that is passed on, in each of the cases, is one that the amount covers. -/
theorem keepsToAmount_iff (isSell : request.side = .sell) (positive : 0 < request.amount)
    (decimals balance : ℕ) :
    KeepsToAmount request decimals balance ↔
      ∀ amountIn, swapAmount request decimals balance = .ok amountIn → 0 < amountIn →
        amountIn ≤ balance → (amountIn : ℚ) ≤ request.amount * 10 ^ decimals := by
  have nonneg : 0 ≤ request.amount * 10 ^ decimals := by positivity
  have checked {amountIn : ℕ} (covered : amountIn ≤ balance) :
      (0 < amountIn → amountIn ≤ balance → (amountIn : ℚ) ≤ request.amount * 10 ^ decimals) ↔
        (amountIn : ℚ) ≤ request.amount * 10 ^ decimals := by
    obtain rfl | someAmount := Nat.eq_zero_or_pos amountIn
    · simp [nonneg]
    · simp [someAmount, covered]
  have smaller {less more : ℕ} (ordered : less ≤ more) :
      (more : ℚ) ≤ request.amount * 10 ^ decimals → (less : ℚ) ≤ request.amount * 10 ^ decimals :=
    le_trans (by exact_mod_cast ordered)
  unfold KeepsToAmount swapAmount
  rw [isSell]
  cases request.rawAmount with
  | some raw =>
    simp only [Except.ok.injEq, forall_eq']
    by_cases exceeds : raw > balance
    · rw [if_pos exceeds, checked (sellAmountRawFromBalance_le balance)]
      refine ⟨?_, fun within => .inr ⟨exceeds, within⟩⟩
      rintro (within | ⟨-, within⟩)
      · exact smaller ((sellAmountRawFromBalance_le balance).trans (Nat.le_of_lt exceeds)) within
      · exact within
    · rw [if_neg exceeds, checked (Nat.le_of_not_gt exceeds)]
      exact or_iff_left fun beyond => exceeds beyond.1
  | none =>
    have sized : ∀ amountIn, Except.ok (sellAmountRawFromBalance
        (desiredAmount (roundedAmount request decimals) balance)) =
          (.ok amountIn : Except String ℕ) ↔ sellAmountRawFromBalance
            (desiredAmount (roundedAmount request decimals) balance) = amountIn :=
      fun amountIn => ⟨Except.ok.inj, congrArg Except.ok⟩
    have covered := (sellAmountRawFromBalance_le _).trans
      (desiredAmount_le (roundedAmount request decimals) balance)
    calc (sellAmountRawFromBalance balance : ℚ) ≤ request.amount * 10 ^ decimals ∨
          0 < roundedAmount request decimals ∧
            (sellAmountRawFromBalance (roundedAmount request decimals) : ℚ) ≤
              request.amount * 10 ^ decimals ↔
        (sellAmountRawFromBalance (desiredAmount (roundedAmount request decimals) balance) : ℚ) ≤
          request.amount * 10 ^ decimals := (desiredAmount_within _ _ _).symm
      _ ↔ _ := (checked covered).symm
      _ ↔ _ := by
        refine Iff.symm ((forall_congr' fun amountIn => imp_congr_left (sized amountIn)).trans ?_)
        exact forall_eq'

/-- A sell keeps to its amount and to the balance just where rounding, the cushion and the fallback
to the whole balance do. -/
theorem sellsWithin_iff (isSell : request.side = .sell) (positive : 0 < request.amount) :
    SellsWithin request balance ↔
      ∀ token, findToken request.tokenSymbol.toUpper = some token → token.symbol ≠ "USDT" →
        KeepsToAmount request token.decimals balance := by
  refine forall_congr' fun token => imp_congr_right fun isToken => ?_
  rw [keepsToAmount_iff isSell positive]
  constructor
  · intro keeps other amountIn isSized someAmount covered
    obtain ⟨minOut, path, swaps⟩ :=
      swap_of_passed [] isToken isSell positive other isSized someAmount covered
    exact (keeps (willing balance) [] rfl amountIn minOut path swaps).1
  · intro keeps fates trades isHeld amountIn minOut path swaps
    obtain ⟨other, isSized, covered⟩ := passed_of_swap isToken isSell isHeld swaps
    refine ⟨?_, covered⟩
    obtain rfl | someAmount := Nat.eq_zero_or_pos amountIn
    · exact_mod_cast (by positivity : (0 : ℚ) ≤ request.amount * 10 ^ token.decimals)
    · exact keeps other amountIn isSized someAmount covered

end Sell

end GdslExchange.Spot
