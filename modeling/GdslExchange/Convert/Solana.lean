/-
This file models the convert of one token of the Solana wallet into another: the platform fee, a
transfer of its own, and the swap of the rest, which Jupiter executes.

The chain answers whatever it likes. A transaction may land although its caller is told of a
failure, and the execute endpoint may name a signature of a transaction that has failed. The gas
that is bought beforehand is no part of what a convert takes.
-/

import GdslExchange.Convert.Honest
import GdslExchange.Jupiter.Swap

namespace GdslExchange.Convert.Solana

open Async (Delivery)
open Async.Program
open Jupiter (ExecuteReply Order OrderRequest Settings executedSignature fromSmallest
  solGasReserve solNativeMint solUsdcMint toSmallest)
open Numeric

/-! ### The chain -/

/-- What the wallet is read for. -/
inductive Purpose where
  | balance
  | fee
  | swap
deriving DecidableEq

/-- A signed order, and the amount that it swaps. -/
structure SignedOrder where
  transaction : String
  requestId : String
  amountIn : ℕ

/-- What becomes of a signed order, and what the execute endpoint says of it. -/
structure Execution where
  lands : Bool
  answer : Except String ExecuteReply

inductive Op where
  | ensureSolanaPersonalWallet
  | ensureSolanaSwapGas
  | getSolanaKeypair (purpose : Purpose)
  | getMint (mint : String)
  | getBalance
  | getAccount (mint : String) (purpose : Purpose)
  | fetchJupiterPrice (mint : String)
  | publicKey (address : String)
  | getAccountInfo (mint : String)
  | sendFee (mint : String) (toAddress : String) (raw : ℕ)
  | getJupiterOrder (request : OrderRequest)
  | signTransaction (transaction : String)
  | submitJupiterExecute (signed : SignedOrder)
  | recordWalletConvert (source destination : String) (inAmount outAmount : ℚ)

@[reducible] def Result : Op → Type
  | .ensureSolanaPersonalWallet => Unit
  | .ensureSolanaSwapGas => Unit
  | .getSolanaKeypair _ => String
  | .getMint _ => ℕ
  | .getBalance => ℕ
  | .getAccount _ _ => ℕ
  | .fetchJupiterPrice _ => Option ℚ
  | .publicKey _ => Unit
  | .getAccountInfo _ => Unit
  | .sendFee _ _ _ => String
  | .getJupiterOrder _ => Order
  | .signTransaction _ => String
  | .submitJupiterExecute _ => ExecuteReply
  | .recordWalletConvert _ _ _ _ => Unit

/-- A transaction that moves the source token lands or not, a price may be missing, and everything
else answers or fails. -/
@[reducible] def Fate : Op → Type
  | .fetchJupiterPrice _ => Option ℚ
  | .sendFee _ _ _ => Delivery
  | .submitJupiterExecute _ => Execution
  | op => Except String (Result op)

def perform : (op : Op) → Fate op → Taken → Taken × Except String (Result op)
  | .fetchJupiterPrice _, price, taken => (taken, .ok price)
  | .sendFee _ _ raw, delivery, taken =>
    delivery.write taken { taken with fee := some raw } "5fee"
  | .submitJupiterExecute signed, execution, taken =>
    (if execution.lands then { taken with input := some signed.amountIn } else taken,
      execution.answer)
  | .ensureSolanaPersonalWallet, answer, taken => (taken, answer)
  | .ensureSolanaSwapGas, answer, taken => (taken, answer)
  | .getSolanaKeypair _, answer, taken => (taken, answer)
  | .getMint _, answer, taken => (taken, answer)
  | .getBalance, answer, taken => (taken, answer)
  | .getAccount _ _, answer, taken => (taken, answer)
  | .publicKey _, answer, taken => (taken, answer)
  | .getAccountInfo _, answer, taken => (taken, answer)
  | .getJupiterOrder _, answer, taken => (taken, answer)
  | .signTransaction _, answer, taken => (taken, answer)
  | .recordWalletConvert _ _ _ _, answer, taken => (taken, answer)

/-- The chain, Jupiter and the history of converts. -/
abbrev chain : Async.Service where
  State := Taken
  Op := Op
  Result := Result
  Failure := String
  Fate := Fate
  perform := perform

abbrev Call (Value : Type) := Async.Program chain Value

def await (op : Op) : Call (Result op) := @Async.Program.perform chain op

/-! ### The wallet -/

/-- The decimals of a mint. They are kept once they are known. -/
def getSolanaMintDecimals (mint : String) : Call ℕ :=
  if mint = solNativeMint then pure 9
  else if mint = solUsdcMint then pure 6
  else await (.getMint mint)

def getSolanaTokenBalance (mint : String) (decimals : ℕ) : Call ℚ := do
  let _ ← await (.getSolanaKeypair .balance)
  if mint = solNativeMint then do
    let lamports ← await .getBalance
    pure (fromSmallest lamports 9)
  else
    recover (do
      let raw ← await (.getAccount mint .balance)
      pure (fromSmallest raw decimals))
      fun _ => pure 0

/-! ### The fee -/

def tokenPrice (mint : String) : Call (Option ℚ) :=
  if mint = solUsdcMint then pure (some 1) else await (.fetchJupiterPrice mint)

def solConvertFeeTokens (mint : String) (amount : ℚ) : Call ℚ := do
  let price ← tokenPrice mint
  match price.filter fun price => price > 0 with
  | none => pure 0
  | some price =>
    if convertFeeUsd / price ≥ amount * (2 / 10) then
      failed ("Convert amount is too small — minimum is about $" ++
        (toFixed 2 (convertFeeUsd * 5)).render ++ ".")
    else pure (convertFeeUsd / price)

/-- What `sendSolanaTokenFromUser` sends, once the accounts have been read. -/
def prepareSend (mint : String) (amount : ℚ) (toAddress : String) : Call ℕ := do
  let _ ← await (.getSolanaKeypair .fee)
  await (.publicKey toAddress)
  if mint = solNativeMint then pure ⌊amount * 10 ^ 9⌋.toNat
  else do
    await (.getAccountInfo mint)
    let decimals ← getSolanaMintDecimals mint
    let held ← await (.getAccount mint .fee)
    throwIf (held < ⌊amount * 10 ^ decimals⌋.toNat) "Insufficient token balance for fee"
    pure ⌊amount * 10 ^ decimals⌋.toNat

def sendSolanaTokenFromUser (mint : String) (amount : ℚ) (toAddress : String) : Call String := do
  let raw ← prepareSend mint amount toAddress
  await (.sendFee mint toAddress raw)

/-- The fee, where it is heard to have been taken. -/
def tryFee (treasury mint : String) (feeTokens : ℚ) : Call Bool :=
  if feeTokens > 0 then
    recover (do
      let _ ← sendSolanaTokenFromUser mint feeTokens treasury
      pure true)
      fun _ => pure false
  else pure false

/-! ### The convert -/

def assertConvertInputs (request : ConvertRequest) : Call Unit := do
  throwIf (request.source = "" ∨ request.destination = "") "Pick both coins to convert."
  throwIf (request.source = request.destination) "Choose two different coins."
  throwIf (request.amount ≤ 0) "Enter a valid amount."

/-- Gas is bought first, except by a convert that buys it. -/
def ensureGas (request : ConvertRequest) : Call Unit :=
  if request.destination ≠ solNativeMint ∨ request.source ≠ solUsdcMint then
    await .ensureSolanaSwapGas
  else pure ()

/-- What the wallet has to hold. -/
def needed (request : ConvertRequest) : ℚ :=
  if request.source = solNativeMint then request.amount + solGasReserve else request.amount

def assertFunded (request : ConvertRequest) (decimals : ℕ) : Call Unit := do
  let bal ← getSolanaTokenBalance request.source decimals
  let places := if request.source = solNativeMint then 4 else 6
  throwIf (bal < needed request)
    ("Insufficient balance — need " ++ (toFixed places (needed request)).render ++ ", have " ++
      (toFixed places bal).render ++
      if request.source = solNativeMint then " (keeps " ++ text solGasReserve ++ " SOL for fees)"
      else "")

/-- What is checked before the fee. -/
def checkConvert (settings : Settings) (request : ConvertRequest) : Call ℕ := do
  throwIf (!settings.solanaWalletEnabled)
    "Solana wallet is not configured (WALLET_ENCRYPTION_KEY)."
  throwIf (!settings.jupiterConfigured) "Jupiter is not configured (JUPITER_API_KEY)."
  assertConvertInputs request
  await .ensureSolanaPersonalWallet
  ensureGas request
  let fromDecimals ← getSolanaMintDecimals request.source
  assertFunded request fromDecimals
  pure fromDecimals

/-- An order for the swap, signed. -/
def signOrder (request : ConvertRequest) (amountIn : ℕ) : Call (Order × SignedOrder) := do
  let taker ← await (.getSolanaKeypair .swap)
  let order ← await (.getJupiterOrder
    { inputMint := request.source
      outputMint := request.destination
      amount := amountIn
      taker := taker
      slippageBps := min 2000 (max 10 (request.slippageBps.getD 100))
      dexes := none })
  let transaction ← orThrow (order.transaction.filter (· ≠ ""))
    "Jupiter did not return a transaction — keep a little SOL for fees or try again."
  let signed ← await (.signTransaction transaction)
  pure (order, ⟨signed, order.requestId, amountIn⟩)

/-- The history of converts is best effort. -/
def tryRecord (request : ConvertRequest) (inAmount outAmount : ℚ) : Call Unit :=
  recover (await (.recordWalletConvert request.source request.destination inAmount outAmount))
    fun _ => pure ()

/-- What is made of the answer of the execute endpoint. -/
def reportOrder (request : ConvertRequest) (fromDecimals : ℕ) (feeTokens : ℚ) (feePaid : Bool)
    (order : Order) (signed : SignedOrder) (reply : ExecuteReply) : Call ConvertResult := do
  let signature ← ofExcept (executedSignature reply)
  let toDecimals ← getSolanaMintDecimals request.destination
  let swappedIn := fromSmallest (order.inAmount.getD signed.amountIn) fromDecimals
  let outAmount := fromSmallest order.outAmount toDecimals
  tryRecord request swappedIn outAmount
  pure
    { txHash := signature
      source := request.source
      destination := request.destination
      inAmount := if feePaid then swappedIn + feeTokens else swappedIn
      outAmount := outAmount
      feeUsd := if feePaid then convertFeeUsd else 0 }

def executeOrder (request : ConvertRequest) (fromDecimals : ℕ) (feeTokens : ℚ) (feePaid : Bool)
    (order : Order) (signed : SignedOrder) : Call ConvertResult := do
  let reply ← await (.submitJupiterExecute signed)
  reportOrder request fromDecimals feeTokens feePaid order signed reply

/-- The swap of what the fee has left. -/
def convertRest (request : ConvertRequest) (fromDecimals : ℕ) (feeTokens : ℚ) (feePaid : Bool) :
    Call ConvertResult := do
  let netAmount := if feePaid then request.amount - feeTokens else request.amount
  let (order, signed) ← signOrder request (toSmallest netAmount fromDecimals)
  executeOrder request fromDecimals feeTokens feePaid order signed

def convertChecked (treasury : String) (request : ConvertRequest) (fromDecimals : ℕ) :
    Call ConvertResult := do
  let feeTokens ← solConvertFeeTokens request.source request.amount
  let feePaid ← tryFee treasury request.source feeTokens
  convertRest request fromDecimals feeTokens feePaid

def convertSolanaTokens (settings : Settings) (treasury : String) (request : ConvertRequest) :
    Call ConvertResult := do
  let fromDecimals ← checkConvert settings request
  convertChecked treasury request fromDecimals

end GdslExchange.Convert.Solana
