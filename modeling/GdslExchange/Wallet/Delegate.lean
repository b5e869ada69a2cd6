/-
This file models the delegated trades of the operator's hot wallet: buys of WBNB
for USDT under a total budget, and sells back.

The swaps of the wallet are kept with the rows that record them: a swap can land
although its sender is told of an error, and then nothing records it. A swap's
hash is its position. The allowances of the router answer whatever they like.
-/

import GdslExchange.Spot.PersonalWallet

namespace GdslExchange.Wallet.Delegate

open Async (Delivery)
open Async.Program
open Numeric
open Spot (fromUnits parseAmount formatUnits usdtAddr wbnbAddr)

/-! ### Settings -/

/-- `AppError`; other errors have no status code. -/
structure AppError where
  statusCode : Option ℕ
  message : String

def AppError.plain (message : String) : AppError := ⟨none, message⟩

/-- The environment of the server. -/
structure Settings where
  enabled : Bool
  hotWalletSigner : Option String
  maxUsdtTotal : ℚ
  maxPerTxUsdt : ℚ
  slippageBps : ℚ

def investorDelegateBudgetUsdt : ℚ := 500

structure DelegateCaps where
  maxTotalUsdt : ℚ
  maxPerTxUsdt : ℚ

def getDelegateCaps (settings : Settings) : DelegateCaps :=
  let safeTotal := min (max settings.maxUsdtTotal 1) investorDelegateBudgetUsdt
  ⟨safeTotal, min (max settings.maxPerTxUsdt 1) safeTotal⟩

def delegateSlippageBps (settings : Settings) : ℕ :=
  (min 2000 (max 10 ⌊settings.slippageBps⌋)).toNat

/-! ### The book -/

/-- `BUY_DIR` and `SELL_DIR`. -/
inductive Direction where
  | buyUsdtToWbnb
  | sellWbnbToUsdt
deriving DecidableEq

/-- `HotWalletDelegatedSpend`. -/
structure Spend where
  userId : String
  direction : Direction
  usdtNotional : ℚ
  wbnbAmount : Option ℚ
  txHash : ℕ
  approveTxHash : Option String
deriving DecidableEq

/-- A swap that the wallet has signed, and whether it takes effect. -/
structure SignedSwap where
  direction : Direction
  amountIn : ℕ
  lands : Bool

/-- The rows of the delegated trades and the swaps of the wallet. -/
structure Book where
  spends : List Spend
  swaps : List SignedSwap

def SignedSwap.spentUsdt (swap : SignedSwap) : ℚ :=
  if swap.direction = .buyUsdtToWbnb ∧ swap.lands then fromUnits swap.amountIn 18 else 0

/-- What a row counts for in the total. -/
def Spend.countedUsdt (spend : Spend) : ℚ :=
  if spend.direction = .buyUsdtToWbnb then spend.usdtNotional else 0

def Book.spentUsdt (book : Book) : ℚ := (book.swaps.map SignedSwap.spentUsdt).sum

/-- The total of the recorded buys. -/
def Book.recordedUsdt (book : Book) : ℚ := (book.spends.map Spend.countedUsdt).sum

/-! ### Operations -/

/-- What becomes of a signed swap: it lands, it is accepted and reverts, it is not sent, or it
lands and an error is reported. -/
inductive Sending where
  | landed
  | reverted
  | refused (message : String)
  | lost (message : String)

def Sending.Lands : Sending → Prop
  | landed => True
  | lost _ => True
  | _ => False

instance (sending : Sending) : Decidable sending.Lands := by
  cases sending <;> unfold Sending.Lands <;> infer_instance

/-- How the wait for the receipt of a swap ends. -/
inductive Wait where
  | mined
  | missing
  | failed (message : String)

inductive Op where
  | sumDelegatedBuyUsdt
  | hasHistoricalBuyApproval
  | createSpend (row : Spend)
  | balanceOf (token : String)
  | allowance (token : String)
  | approve (token : String) (amount : Option ℕ)
  | waitForApproval (hash : String)
  | getAmountsOut (amountIn : ℕ) (path : List String)
  | swapExactTokensForTokens (direction : Direction) (amountIn amountOutMin : ℕ)
  | waitForSwap (hash : ℕ)
deriving DecidableEq

@[reducible] def Result : Op → Type
  | .sumDelegatedBuyUsdt => ℚ
  | .hasHistoricalBuyApproval => Bool
  | .createSpend _ => Unit
  | .balanceOf _ => ℕ
  | .allowance _ => ℕ
  | .approve _ _ => String
  | .waitForApproval _ => Bool
  | .getAmountsOut _ _ => List ℕ
  | .swapExactTokensForTokens _ _ _ => ℕ
  | .waitForSwap _ => Bool

@[reducible] def Fate : Op → Type
  | .sumDelegatedBuyUsdt => Delivery
  | .hasHistoricalBuyApproval => Delivery
  | .createSpend _ => Delivery
  | .swapExactTokensForTokens _ _ _ => Sending
  | .waitForSwap _ => Wait
  | op => Except String (Result op)

/-- The column of the notional has eight places. -/
def Spend.stored (spend : Spend) : Spend :=
  { spend with usdtNotional := roundTo 8 spend.usdtNotional }

def Book.record (book : Book) (row : Spend) : Book :=
  { book with spends := book.spends ++ [row.stored] }

def Book.sign (book : Book) (swap : SignedSwap) : Book :=
  { book with swaps := book.swaps ++ [swap] }

def answered {Value : Type} (book : Book) (answer : Except String Value) :
    Book × Except AppError Value :=
  (book, answer.mapError AppError.plain)

/-- An answer from the store. -/
def stored {Value : Type} (delivery : Delivery) (before after : Book) (value : Value) :
    Book × Except AppError Value :=
  ((delivery.write before after value).1, (delivery.reply value).mapError AppError.plain)

def perform : (op : Op) → Fate op → Book → Book × Except AppError (Result op)
  | .sumDelegatedBuyUsdt, delivery, book => stored delivery book book book.recordedUsdt
  | .hasHistoricalBuyApproval, delivery, book =>
    stored delivery book book (book.spends.any fun row =>
      row.direction = .buyUsdtToWbnb ∧ row.approveTxHash ≠ none)
  | .createSpend row, delivery, book => stored delivery book (book.record row) ()
  | .balanceOf _, answer, book => answered book answer
  | .allowance _, answer, book => answered book answer
  | .approve _ _, answer, book => answered book answer
  | .waitForApproval _, answer, book => answered book answer
  | .getAmountsOut _ _, answer, book => answered book answer
  | .swapExactTokensForTokens direction amountIn _, sending, book =>
    let signed := book.sign ⟨direction, amountIn, sending.Lands⟩
    match sending with
    | .landed => (signed, .ok book.swaps.length)
    | .reverted => (signed, .ok book.swaps.length)
    | .refused message => (book, .error (.plain message))
    | .lost message => (signed, .error (.plain message))
  | .waitForSwap hash, wait, book =>
    (book, match wait with
      | .mined => .ok (book.swaps[hash]?.any SignedSwap.lands)
      | .missing => .ok false
      | .failed message => .error (.plain message))

/-- The outside world of the delegated trades. -/
abbrev router : Async.Service where
  State := Book
  Op := Op
  Result := Result
  Failure := AppError
  Fate := Fate
  perform := perform

abbrev Call (Value : Type) := Async.Program router Value

def await (op : Op) : Call (Result op) := @Async.Program.perform router op

/-! ### Buys and sells -/

structure DelegateSwapResult where
  direction : Direction
  txHash : ℕ
  approveTxHash : Option String
  usdtNotional : ℚ
  wbnbAmountHuman : Option String

def parseUnits18 (amount : ℚ) : Call ℕ :=
  ofExcept ((parseAmount amount 18).mapError AppError.plain)

/-- A one-time approval of the budget. -/
def ensureUsdtAllowance (amountIn : ℕ) (maxDelegatedTotalUsdt : ℚ) : Call (Option String) := do
  let allowance ← await (.allowance usdtAddr)
  if allowance ≥ amountIn then pure none
  else do
    let alreadyApproved ← await .hasHistoricalBuyApproval
    throwIf (alreadyApproved = true) ⟨some 400,
      "Delegated approval is one-time only (max 500 USDT). Remaining allowance is not enough for this trade."⟩
    let delegatedCap ← parseUnits18 maxDelegatedTotalUsdt
    let hash ← await (.approve usdtAddr (some delegatedCap))
    let status ← await (.waitForApproval hash)
    throwIf (status = false) ⟨some 502, "USDT approve failed"⟩
    pure (some hash)

/-- An unlimited approval. -/
def ensureWbnbAllowance (amountIn : ℕ) : Call (Option String) := do
  let allowance ← await (.allowance wbnbAddr)
  if allowance ≥ amountIn then pure none
  else do
    let hash ← await (.approve wbnbAddr none)
    let status ← await (.waitForApproval hash)
    throwIf (status = false) ⟨some 502, "WBNB approve failed"⟩
    pure (some hash)

def quoteSwap (amountIn : ℕ) (path : List String) : Call ℕ := do
  let amounts ← await (.getAmountsOut amountIn path)
  orThrow (amounts[1]?.filter fun out => out ≠ 0) ⟨some 502, "Router returned no quote"⟩

def landSwap (direction : Direction) (amountIn amountOutMin : ℕ) (failure : String) : Call ℕ := do
  let hash ← await (.swapExactTokensForTokens direction amountIn amountOutMin)
  let status ← await (.waitForSwap hash)
  throwIf (status = false) ⟨some 502, failure⟩
  pure hash

/-- The checks of a buy against what the total leaves of the budget. -/
def checkBudget (caps : DelegateCaps) (used usdtAmount : ℚ) : Call Unit := do
  let remaining := max 0 (caps.maxTotalUsdt - used)
  throwIf (remaining ≤ 0) ⟨some 400, "Delegated USDT budget exhausted"⟩
  throwIf (usdtAmount < 5) ⟨some 400, "Minimum delegated buy is 5 USDT"⟩
  throwIf (usdtAmount > caps.maxPerTxUsdt)
    ⟨some 400, "Per-tx cap is " ++ text caps.maxPerTxUsdt ++ " USDT"⟩
  throwIf (usdtAmount > remaining) ⟨some 400, "Only " ++ (toFixed 2 remaining).render ++
    " USDT remaining in delegated budget"⟩

/-- What a trade needs of the settings. -/
def requireSigner (settings : Settings) : Call String := do
  throwIf (settings.enabled = false) ⟨some 403,
    "Delegated auto-sign is disabled (set HOT_WALLET_DELEGATE_ENABLED=true)"⟩
  orThrow settings.hotWalletSigner ⟨some 503, "Hot wallet not configured"⟩

def executeDelegatedBuy (settings : Settings) (userId : String) (usdtAmount : ℚ) :
    Call DelegateSwapResult := do
  let _ ← requireSigner settings
  let caps := getDelegateCaps settings
  let used ← await .sumDelegatedBuyUsdt
  checkBudget caps used usdtAmount
  let amountIn ← parseUnits18 usdtAmount
  let balance ← await (.balanceOf usdtAddr)
  throwIf (balance < amountIn) ⟨some 400, "Insufficient USDT balance on hot wallet"⟩
  let approveTxHash ← ensureUsdtAllowance amountIn caps.maxTotalUsdt
  let expectedOut ← quoteSwap amountIn [usdtAddr, wbnbAddr]
  let amountOutMin := expectedOut * (10000 - delegateSlippageBps settings) / 10000
  let hash ← landSwap .buyUsdtToWbnb amountIn amountOutMin "Buy swap failed"
  await (.createSpend ⟨userId, .buyUsdtToWbnb, usdtAmount, none, hash, approveTxHash⟩)
  pure ⟨.buyUsdtToWbnb, hash, approveTxHash, usdtAmount, some (formatUnits expectedOut 18)⟩

/-- The amount of a sell: what is asked for, or the whole balance. -/
def sellAmount (balance : ℕ) : Option ℚ → Call ℕ
  | none => pure balance
  | some wbnbAmount => do
    throwIf (wbnbAmount ≤ 0) ⟨some 400, "wbnbAmount must be positive"⟩
    let amountIn ← parseUnits18 wbnbAmount
    throwIf (amountIn > balance) ⟨some 400, "wbnbAmount exceeds WBNB balance"⟩
    pure amountIn

def executeDelegatedSell (settings : Settings) (userId : String) (wbnbAmountHuman : Option ℚ) :
    Call DelegateSwapResult := do
  let _ ← requireSigner settings
  let balance ← await (.balanceOf wbnbAddr)
  throwIf (balance = 0) ⟨some 400, "No WBNB balance on hot wallet"⟩
  let amountIn ← sellAmount balance wbnbAmountHuman
  throwIf (amountIn < 10 ^ 16) ⟨some 400, "WBNB amount too small to swap"⟩
  let approveTxHash ← ensureWbnbAllowance amountIn
  let expectedUsdt ← quoteSwap amountIn [wbnbAddr, usdtAddr]
  let amountOutMin := expectedUsdt * (10000 - delegateSlippageBps settings) / 10000
  let hash ← landSwap .sellWbnbToUsdt amountIn amountOutMin "Sell swap failed"
  let wbnbHuman := fromUnits amountIn 18
  await (.createSpend ⟨userId, .sellWbnbToUsdt, 0, some wbnbHuman, hash, approveTxHash⟩)
  pure ⟨.sellWbnbToUsdt, hash, approveTxHash, fromUnits expectedUsdt 18,
    some (formatUnits amountIn 18)⟩

/-- A request for a delegated trade. -/
inductive Trade where
  | buy (userId : String) (usdtAmount : ℚ)
  | sell (userId : String) (wbnbAmountHuman : Option ℚ)

def Trade.call (settings : Settings) : Trade → Call DelegateSwapResult
  | buy userId usdtAmount => executeDelegatedBuy settings userId usdtAmount
  | sell userId wbnbAmountHuman => executeDelegatedSell settings userId wbnbAmountHuman

/-- The trades, all about to start on a book. -/
def tradeSystem (settings : Settings) (book : Book) (trades : List Trade) :
    Async.System router DelegateSwapResult where
  moment := ⟨book, []⟩
  calls := trades.map (Trade.call settings)

end GdslExchange.Wallet.Delegate
