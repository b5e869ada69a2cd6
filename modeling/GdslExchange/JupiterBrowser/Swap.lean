/-
This file models the swaps of browser wallets: the build of a transaction that the wallet
signs, and the submission that relays the signed bytes and books the trade.

What reads the bytes is a library. All that is used of it is that a transaction which a
wallet has signed is read as its message and that wallet.
-/

import GdslExchange.JupiterBrowser.Desk

namespace GdslExchange.JupiterBrowser

open Async (Stored)
open Async.Program hiding await
open Jupiter (Side TradeStatus fromSmallest solGasReserve solNativeMint solUsdcMint)
open Numeric

/-! ### Transactions -/

/-- What a `VersionedTransaction` is read as. -/
structure Transaction where
  message : String
  signer : String
deriving DecidableEq

/-- The library of transactions: addresses, the message of an unsigned transaction, and the bytes
that a wallet makes of it, in base64. -/
structure Web3 where
  publicKey : String → Option String
  deserialize : String → Option Transaction
  message : String → String
  sign : String → String → String
  deserialize_sign : ∀ owner transaction,
    deserialize (sign owner transaction) = some ⟨message transaction, owner⟩

/-! ### The build -/

/-- The parameters of `buildBrowserJupiterSwap`. -/
structure BuildOptions where
  userId : String
  owner : String
  side : Side
  binanceSymbol : String
  amount : ℚ
  slippageBps : Option ℚ := none
  spendMint : Option String := none

structure BrowserSwapBuild where
  requestId : String
  transaction : String
  side : Side
  binanceSymbol : String
  pair : String
  owner : String
  inputMint : String
  outputMint : String
  amountInHuman : ℚ
  expectedOutHuman : ℚ
  usdValue : ℚ
  priceImpactPct : Option ℚ
  slippageBps : ℚ
  expiresAt : ℕ

def trim (text : String) : String :=
  String.ofList (((text.toList.dropWhile Char.isWhitespace).reverse.dropWhile
    Char.isWhitespace).reverse)

def minTradeUsd : ℚ := 1

def toSmallest (amount : ℚ) (decimals : ℕ) : ℕ := (Numeric.round (amount * 10 ^ decimals)).toNat

def ownerBalance (owner mint : String) : Call (ℚ × ℕ) := do
  let holdings ← await (.listSolanaHoldingsForOwner owner)
  let hit := holdings.find? fun holding => holding.mint = mint
  pure ((hit.map Holding.amount).getD 0, (hit.map Holding.decimals).getD 0)

def usdPerUnit (mint : String) : Call ℚ :=
  if mint = solUsdcMint then pure 1
  else do
    let price ← recover (await (.fetchJupiterPricesV3 mint)) fun _ => pure none
    pure (price.getD 0)

/-- `spendMint?.trim() || SOL_USDC_MINT`. -/
def spendMintOf (opts : BuildOptions) : String :=
  ((opts.spendMint.map trim).filter (· ≠ "")).getD solUsdcMint

def inDecimalsOf (held : ℚ × ℕ) (inputMint : String) (tokenDecimals : ℕ) : ℕ :=
  if held.2 > 0 then held.2
  else if inputMint = solUsdcMint then 6
  else if inputMint = solNativeMint then 9
  else tokenDecimals

def solHeldOf (owner inputMint : String) (held : ℚ × ℕ) : Call ℚ :=
  if inputMint = solNativeMint then pure held.1
  else do
    let native ← ownerBalance owner solNativeMint
    pure native.1

/-- The wallet covers the order and the fees. -/
def checkBalances (owner inputMint : String) (amount : ℚ) (held : ℚ × ℕ) : Call Unit := do
  let isNativeSol : Bool := inputMint = solNativeMint
  let needed := if isNativeSol then amount + solGasReserve else amount
  let dp := if isNativeSol then 4 else if inputMint = solUsdcMint then 2 else 6
  throwIf (held.1 < needed)
    ("Your connected wallet holds " ++ (toFixed dp held.1).render ++ " but needs " ++
      (toFixed dp needed).render ++
      if isNativeSol then " (keeps " ++ text solGasReserve ++ " SOL for network fees)" else "")
  let solHeld ← solHeldOf owner inputMint held
  throwIf (solHeld < solGasReserve)
    ("Your wallet needs about " ++ text solGasReserve ++ " SOL for network fees (currently " ++
      (toFixed 4 solHeld).render ++ " SOL).")

/-- The value of the order in USD, which must not be too small. -/
def orderValue (inputMint : String) (amount : ℚ) : Call ℚ := do
  let inUsd ← usdPerUnit inputMint
  let usdValue := if inUsd > 0 then amount * inUsd else 0
  throwIf (usdValue > 0 ∧ usdValue < minTradeUsd)
    ("Order is about $" ++ (toFixed 2 usdValue).render ++ " — the minimum is $" ++
      text minTradeUsd ++ ".")
  pure usdValue

/-- What is remembered of a build, without its time. -/
def contextOf (opts : BuildOptions) (owner baseSymbol : String) (amountInHuman expectedOutHuman
    usdValue : ℚ) : BuildContext where
  builtAt := 0
  userId := opts.userId
  owner := owner
  side := opts.side
  binanceSymbol := opts.binanceSymbol.toUpper
  pair := baseSymbol ++ "/USDT"
  baseSymbol := baseSymbol
  amountInHuman := amountInHuman
  expectedOutHuman := expectedOutHuman
  usdValue := match opts.side with
    | .buy => if usdValue ≠ 0 then usdValue else amountInHuman
    | .sell => expectedOutHuman

def buildBrowserJupiterSwap (web3 : Web3) (configured : Bool) (opts : BuildOptions) :
    Call BrowserSwapBuild := do
  throwIf (!configured) "Jupiter is not configured (JUPITER_API_KEY)."
  throwIf (opts.amount ≤ 0) "amount must be positive"
  let owner ← orThrow (web3.publicKey (trim opts.owner))
    "Invalid Solana wallet address"
  let token? ← await (.getJupiterTradableToken opts.binanceSymbol)
  let token ← orThrow token?
    ("This pair is not available on Solana via Jupiter (" ++ opts.binanceSymbol ++ ").")
  let slippageBps := min 2000 (max 10 (opts.slippageBps.getD 100))
  let inputMint := if opts.side = .buy then spendMintOf opts else token.mint
  let outputMint := if opts.side = .buy then token.mint else solUsdcMint
  let held ← ownerBalance owner inputMint
  let inDecimals := inDecimalsOf held inputMint token.decimals
  checkBalances owner inputMint opts.amount held
  let usdValue ← orderValue inputMint opts.amount
  let order ← await (.getJupiterOrder {
    inputMint := inputMint
    outputMint := outputMint
    amount := toSmallest opts.amount inDecimals
    taker := owner
    slippageBps := slippageBps
    dexes := none })
  let transaction ← orThrow (order.transaction.filter (· ≠ ""))
    "Jupiter did not return a transaction — try again, or add a little SOL for fees."
  let outDecimals := if opts.side = .buy then token.decimals else 6
  let amountIn := fromSmallest (order.inAmount.getD 0) inDecimals
  let amountInHuman := if amountIn ≠ 0 then amountIn else opts.amount
  let expectedOutHuman := fromSmallest order.outAmount outDecimals
  let stored ← await (.storeBuild ⟨order.requestId, transaction,
    contextOf opts owner token.baseSymbol amountInHuman expectedOutHuman usdValue⟩)
  pure {
    requestId := order.requestId
    transaction := transaction
    side := opts.side
    binanceSymbol := stored.context.binanceSymbol
    pair := stored.context.pair
    owner := owner
    inputMint := inputMint
    outputMint := outputMint
    amountInHuman := amountInHuman
    expectedOutHuman := expectedOutHuman
    usdValue := stored.context.usdValue
    priceImpactPct := order.priceImpactPct
    slippageBps := slippageBps
    expiresAt := stored.context.builtAt + buildTtlMs }

/-! ### The submission -/

structure BrowserSwapResult where
  txSignature : String
  side : Side
  pair : String
  amountIn : ℚ
  amountOut : ℚ
  trade : Stored Trade

def bookTrade (build : ℕ) (ctx : BuildContext) : Call (Stored Trade) :=
  match ctx.side with
  | .buy => await (.createTrade build ctx.buyRow)
  | .sell => do
    let open? ← await (.findOpenTrade ctx.userId ctx.pair)
    match open? with
    | some found => await (.updateTrade build found.id (ctx.sellPatch found.row))
    | none => await (.createTrade build ctx.strayRow)

def submitBrowserJupiterSwap (web3 : Web3) (opts : SubmitOptions) : Call BrowserSwapResult := do
  let found ← await (.submitJupiterExecute opts (web3.deserialize opts.signedTransaction).isSome)
  let ctx := found.row
  let signature ← await (.hearExecute opts.requestId)
  await .ensureSelfCustodyStrategyId
  let trade ← bookTrade found.id ctx
  pure ⟨signature, ctx.side, ctx.pair, ctx.amountInHuman, ctx.expectedOutHuman, trade⟩

/-! ### Requests -/

inductive Request where
  | build (opts : BuildOptions)
  | submit (opts : SubmitOptions)

def Request.call (web3 : Web3) (configured : Bool) : Request → Call Unit
  | build opts => do
    let _ ← buildBrowserJupiterSwap web3 configured opts
  | submit opts => do
    let _ ← submitBrowserJupiterSwap web3 opts

/-- A server without builds, of which a list of requests is made. -/
def browserSystem (web3 : Web3) (configured : Bool) (requests : List Request) :
    Async.System venue Unit where
  moment := ⟨.empty, []⟩
  calls := requests.map (Request.call web3 configured)

end GdslExchange.JupiterBrowser
