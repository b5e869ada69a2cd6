/-
This file models the convert of one token of the personal BSC wallet into another: the platform
fee, a transfer of its own that is made before anything else is checked, and the swap of the rest.

The chain answers whatever it likes. A transaction may land although its caller is told of a
failure. What is kept is what has left the wallet of the source token.
-/

import GdslExchange.Convert.Honest
import GdslExchange.Spot.PersonalWallet

namespace GdslExchange.Convert

open Async (Delivery)
open Async.Program
open Numeric

namespace Bsc

open Spot (BscToken QuotedPath Reading bestQuote findToken fromUnits ledgerCounterAddress parseUnits
  sellAmountRawFromBalance slippageOf usdtAddr wbnbAddr)

/-! ### The chain -/

/-- What a signer is loaded for. -/
inductive Purpose where
  | fee
  | swap
deriving DecidableEq

inductive Op where
  | fetchBinancePrice (symbol : Option String)
  | loadSigner (purpose : Purpose)
  | sendFee (contract : Option String) (treasury : String) (value : ℕ)
  | ensureNativeBnbForGas
  | readBnbBalances
  | ensureWbnbForSell (minWbnbNeeded : ℕ)
  | balanceOf (contract : String) (reading : Reading)
  | allowance (contract : String)
  | approve (contract : String)
  | getAmountsOut (amountIn : ℕ) (path : List String)
  | swapExactTokensForTokens (amountIn minOut : ℕ) (path : List String)
  | recordWalletConvert (source destination : String) (inAmount outAmount : ℚ)

@[reducible] def Result : Op → Type
  | .fetchBinancePrice _ => Option ℚ
  | .loadSigner _ => Unit
  | .sendFee _ _ _ => String
  | .ensureNativeBnbForGas => Unit
  | .readBnbBalances => ℕ
  | .ensureWbnbForSell _ => Unit
  | .balanceOf _ _ => ℕ
  | .allowance _ => ℕ
  | .approve _ => Unit
  | .getAmountsOut _ _ => List ℕ
  | .swapExactTokensForTokens _ _ _ => String
  | .recordWalletConvert _ _ _ _ => Unit

/-- A transaction that moves the source token lands or not, a price may be missing, and everything
else answers or fails. -/
@[reducible] def Fate : Op → Type
  | .fetchBinancePrice _ => Option ℚ
  | .sendFee _ _ _ => Delivery
  | .swapExactTokensForTokens _ _ _ => Delivery
  | op => Except String (Result op)

def perform : (op : Op) → Fate op → Taken → Taken × Except String (Result op)
  | .fetchBinancePrice _, price, taken => (taken, .ok price)
  | .sendFee _ _ value, delivery, taken =>
    delivery.write taken { taken with fee := some value } "0xfee"
  | .swapExactTokensForTokens amountIn _ _, delivery, taken =>
    delivery.write taken { taken with input := some amountIn } "0xswap"
  | .loadSigner _, answer, taken => (taken, answer)
  | .ensureNativeBnbForGas, answer, taken => (taken, answer)
  | .readBnbBalances, answer, taken => (taken, answer)
  | .ensureWbnbForSell _, answer, taken => (taken, answer)
  | .balanceOf _ _, answer, taken => (taken, answer)
  | .allowance _, answer, taken => (taken, answer)
  | .approve _, answer, taken => (taken, answer)
  | .getAmountsOut _ _, answer, taken => (taken, answer)
  | .recordWalletConvert _ _ _ _, answer, taken => (taken, answer)

/-- The chain, the prices and the history of converts. -/
abbrev chain : Async.Service where
  State := Taken
  Op := Op
  Result := Result
  Failure := String
  Fate := Fate
  perform := perform

abbrev Call (Value : Type) := Async.Program chain Value

def await (op : Op) : Call (Result op) := @Async.Program.perform chain op

/-! ### The fee -/

def binanceSymbol (token : BscToken) : Option String :=
  if token.symbol = "USDT" then none
  else if token.symbol = "BTCB" then some "BTCUSDT"
  else some (token.symbol ++ "USDT")

/-- `amount.toFixed(Math.min(12, decimals))`, in the smallest unit. -/
def rawAmount (token : BscToken) (amount : ℚ) : ℕ :=
  parseUnits (toFixed (min 12 token.decimals) amount) token.decimals

def tokenPrice (token : BscToken) : Call (Option ℚ) :=
  if token.symbol = "USDT" ∨ token.symbol = "USDC" then pure (some 1)
  else await (.fetchBinancePrice (binanceSymbol token))

def bscConvertFeeTokens (source : BscToken) (amount : ℚ) : Call ℚ := do
  let price ← tokenPrice source
  match price.filter fun price => price > 0 with
  | none => pure 0
  | some price =>
    if convertFeeUsd / price ≥ amount * (2 / 10) then
      failed ("Convert amount is too small — minimum is about $" ++
        (toFixed 2 (convertFeeUsd * 5)).render ++ ".")
    else pure (convertFeeUsd / price)

def chargeBscConvertFee (treasury : String) (source : BscToken) (feeTokens : ℚ) :
    Call (Option String) :=
  if feeTokens > 0 then do
    await (.loadSigner .fee)
    let hash ← await (.sendFee source.address treasury (rawAmount source feeTokens))
    pure (some hash)
  else pure none

/-! ### The swap -/

def tokenRouterAddr (token : BscToken) : String := token.address.getD wbnbAddr

def bscUsdcAddr : String := "0x8ac76a51cc950d9822d68b83fe1ad97b32cd580d"

/-- The paths that are no other spelling of an earlier one. -/
def dedupPaths (paths : List (List String)) : List (List String) :=
  let key (path : List String) : List String := path.map String.toLower
  paths.foldl (fun seen path =>
    if seen.any fun other => key other = key path then seen else seen ++ [path]) []

def candidateConvertPaths (source destination : BscToken) : List (List String) :=
  let a := tokenRouterAddr source
  let b := tokenRouterAddr destination
  if a.toLower = b.toLower then []
  else dedupPaths
    [[a, b], [a, usdtAddr, b], [a, wbnbAddr, b], [a, bscUsdcAddr, b],
     [a, usdtAddr, wbnbAddr, b], [a, wbnbAddr, usdtAddr, b]]

/-- A candidate's quote, unless it reverts or brings nothing. -/
def quotePath (amountIn : ℕ) (path : List String) : Call (Option QuotedPath) :=
  recover (do
    let amountsOut ← await (.getAmountsOut amountIn path)
    let expectedOut := amountsOut.getLast?.getD 0
    pure (if expectedOut = 0 then none else some ⟨path, expectedOut⟩))
    fun _ => pure none

def quotePaths (amountIn : ℕ) : List (List String) → Call (List QuotedPath)
  | [] => pure []
  | path :: rest => do
    let quote ← quotePath amountIn path
    let quotes ← quotePaths amountIn rest
    pure (quote.toList ++ quotes)

def quoteBestPath (amountIn : ℕ) (candidates : List (List String)) : Call QuotedPath := do
  throwIf (candidates = []) "No route between these tokens."
  let quotes ← quotePaths amountIn candidates
  orThrow (bestQuote quotes)
    "No Pancake V2 route found for this token. The pool may be paused or out of liquidity."

/-- Gas is seen to, and native BNB is wrapped. -/
def prepare (source : BscToken) (amount : ℚ) : Call Unit :=
  if source.symbol = "BNB" then do
    let sellable ← await .readBnbBalances
    let desired := min (rawAmount source amount) sellable
    await (.ensureWbnbForSell (sellAmountRawFromBalance (if desired > 0 then desired else sellable)))
  else await .ensureNativeBnbForGas

def swapInput (source : BscToken) (amount : ℚ) (balance : ℕ) : ℕ :=
  let amountIn := rawAmount source amount
  if amountIn > balance then
    if source.symbol = "BNB" then sellAmountRawFromBalance balance else balance
  else amountIn

def ensureAllowance (inToken : String) (amountIn : ℕ) : Call Unit := do
  let allowance ← await (.allowance inToken)
  if allowance < amountIn then await (.approve inToken) else pure ()

structure SwapResult where
  txHash : String
  inAmount : ℚ
  outAmount : ℚ

/-- The token whose balance says what a swap has brought. -/
def outAddr (destination : BscToken) : String :=
  (ledgerCounterAddress destination).getD (tokenRouterAddr destination)

def swapTokens (source destination : BscToken) (amountIn : ℕ) (slippageBps : Option ℚ) :
    Call SwapResult := do
  ensureAllowance (tokenRouterAddr source) amountIn
  let best ← quoteBestPath amountIn (candidateConvertPaths source destination)
  let minOut := best.expectedOut * (10000 - slippageOf slippageBps) / 10000
  let outBefore ← await (.balanceOf (outAddr destination) .before)
  let txHash ← await (.swapExactTokensForTokens amountIn minOut best.path)
  let outAfter ← await (.balanceOf (outAddr destination) .after)
  let delta := if outAfter > outBefore then outAfter - outBefore else best.expectedOut
  pure ⟨txHash, fromUnits amountIn source.decimals, fromUnits delta destination.decimals⟩

def executeBscTokenSwap (source destination : BscToken) (amount : ℚ) (slippageBps : Option ℚ) :
    Call SwapResult := do
  throwIf (source.symbol = destination.symbol) "Choose two different tokens."
  throwIf (amount ≤ 0) "Enter a valid amount."
  await (.loadSigner .swap)
  prepare source amount
  let balance ← await (.balanceOf (tokenRouterAddr source) .held)
  throwIf (swapInput source amount balance = 0) ("Insufficient " ++ source.symbol ++ " balance")
  swapTokens source destination (swapInput source amount balance) slippageBps

/-! ### The convert -/

def findBscToken (symbol : String) : Call BscToken :=
  orThrow (findToken symbol.toUpper) ("Unsupported token " ++ symbol)

/-- The fee, where it is heard to have been taken. -/
def tryFee (treasury : String) (source : BscToken) (feeTokens : ℚ) : Call (Option String) :=
  recover (chargeBscConvertFee treasury source feeTokens) fun _ => pure none

/-- The history of converts is best effort. -/
def tryRecord (source destination : BscToken) (swapped : SwapResult) : Call Unit :=
  recover (await (.recordWalletConvert source.symbol destination.symbol swapped.inAmount
    swapped.outAmount)) fun _ => pure ()

def convertRest (source destination : BscToken) (request : ConvertRequest) (feeTokens : ℚ)
    (feeTxHash : Option String) : Call ConvertResult := do
  let netAmount := if feeTxHash.isSome then request.amount - feeTokens else request.amount
  let swapped ← executeBscTokenSwap source destination netAmount request.slippageBps
  tryRecord source destination swapped
  pure
    { txHash := swapped.txHash
      source := source.symbol
      destination := destination.symbol
      inAmount := if feeTxHash.isSome then swapped.inAmount + feeTokens else swapped.inAmount
      outAmount := swapped.outAmount
      feeUsd := if feeTxHash.isSome then convertFeeUsd else 0 }

def convertFound (treasury : String) (source destination : BscToken) (request : ConvertRequest) :
    Call ConvertResult := do
  let feeTokens ← bscConvertFeeTokens source request.amount
  let feeTxHash ← tryFee treasury source feeTokens
  convertRest source destination request feeTokens feeTxHash

def convertBscTokens (treasury : String) (request : ConvertRequest) : Call ConvertResult := do
  let source ← findBscToken request.source
  let destination ← findBscToken request.destination
  convertFound treasury source destination request

end Bsc

end GdslExchange.Convert
