/-
This file models the swap executor of PancakeSwap: the quote, the checks of slippage, liquidity and
gas, the approval, and the transaction itself, which is sent again when its sending fails.

The chain answers whatever it likes. The fate of an operation may be another one at each attempt
of it. A transaction may reach the chain although the response to its sending is lost, and what
becomes of it there is decided when it reaches the chain; it may be known much later.
-/

import GdslExchange.Async.Retry
import GdslExchange.Spot.PersonalWallet
import GdslExchange.Text.Upper

namespace GdslExchange.Pancake

open Async.Program
open Spot (fromUnits formatUnits)

/-! ### Errors -/

/-- The `code` of a `PancakeSwapExecutorError`. -/
inductive Code where
  | config
  | chain
  | liquidity
  | gas
  | slippage
  | tx
  | network
deriving DecidableEq

/-- A `PancakeSwapExecutorError`, or an error of what the executor calls. -/
inductive Failure where
  | executor (message : String) (code : Code)
  | other (message : String)

/-! ### The environment -/

/-- The environment of the executor. The texts are trimmed; a number is what `parseInt` or
`parseFloat` reads in its variable, if it reads one. -/
structure Env where
  defaultChain : Option String
  pancakeswapRouterAddress : Option String
  wbnbAddress : Option String
  maxSlippageBps : Option ℤ
  maxSlippage : Option ℚ
  pancakeGasBufferBps : Option ℤ
  pancakeMinOutputHuman : Option ℚ
  bscTraderPrivateKey : Option String
  hotWalletPrivateKey : Option String
  privateKey : Option String
  /-- The address of a private key. -/
  addressOf : String → String
  /-- `getAddress`. -/
  getAddress : String → Except String String
  /-- Seconds since the epoch. -/
  now : ℕ

def envStr (value : Option String) (fallback : String) : String :=
  (value.filter (· ≠ "")).getD fallback

namespace Env

def routerAddress (env : Env) : String :=
  envStr env.pancakeswapRouterAddress "0x10ED43C718714eb63d5aA57B78B54704E256024E"

def wbnb (env : Env) : String :=
  envStr env.wbnbAddress "0xbb4CdB9CBd36B01bD1cBaEBF2De08d9173bc095c"

def chain (env : Env) : String := (env.defaultChain.getD "BSC").toUpper

def readSlippageBps (env : Env) : ℤ :=
  match env.maxSlippageBps with
  | some bps => min 5000 (max 1 bps)
  | none =>
    match env.maxSlippage with
    | some fraction =>
      if fraction > 0 ∧ fraction ≤ 1 / 2 then
        min 5000 (max 1 (Numeric.round (fraction * 10000)))
      else 100
    | none => 100

def gasBufferNumerator (env : Env) : ℤ :=
  match env.pancakeGasBufferBps with
  | some bps => min 20000 (max 10000 bps)
  | none => 12000

def minOutputHumanThreshold (env : Env) : Option ℚ := env.pancakeMinOutputHuman.filter (· > 0)

/-- The key that is set first. -/
def key (env : Env) : Option String :=
  (env.bscTraderPrivateKey.filter (· ≠ "")).or <|
    (env.hotWalletPrivateKey.filter (· ≠ "")).or (env.privateKey.filter (· ≠ ""))

end Env

def usdtBsc : String := "0x55d398326f99059fF775485246999027B3197955"

def normSymbol (symbol : String) : String := (Text.trim symbol).toUpper

def isHexDigit (letter : Char) : Bool :=
  letter.isDigit || ('a' ≤ letter && letter ≤ 'f') || ('A' ≤ letter && letter ≤ 'F')

/-- `/^0x[0-9a-fA-F]{64}$/`. -/
def isKey (hex : List Char) : Bool :=
  hex.take 2 = ['0', 'x'] && (hex.drop 2).length = 64 && (hex.drop 2).all isHexDigit

/-! ### The chain -/

/-- The swaps of the router. -/
inductive Method where
  | swapExactETHForTokens
  | swapExactTokensForETH
  | swapExactTokensForTokens
deriving DecidableEq

/-- A call of the router, as it is signed. -/
structure RouterCall where
  method : Method
  amountIn : ℤ
  amountOutMin : ℤ
  path : List String
  recipient : String
  deadline : ℕ
deriving DecidableEq

inductive Op where
  | getAmountsOut (amountIn : ℤ) (path : List String)
  | getFeeData
  | allowance (token spender : String)
  | approve (token spender : String)
  | waitApproval (hash : ℕ)
  | estimateGas (swap : RouterCall)
  | getBalance
  | send (swap : RouterCall)
  | wait (hash : ℕ)
deriving DecidableEq

/-- The receipt of a transaction that has been mined. -/
structure Receipt where
  hash : ℕ
  status : Option ℕ
  blockNumber : ℕ

@[reducible] def Result : Op → Type
  | .getAmountsOut _ _ => List ℕ
  | .getFeeData => Option ℕ
  | .allowance _ _ => ℕ
  | .approve _ _ => ℕ
  | .waitApproval _ => Option Receipt
  | .estimateGas _ => ℕ
  | .getBalance => ℕ
  | .send _ => ℕ
  | .wait _ => Option Receipt

/-- What becomes of a transaction that has reached the chain. -/
inductive Landing where
  | lands
  | reverts
  | vanishes
deriving DecidableEq

/-- How an attempt to send a transaction ends. -/
inductive Sending where
  | answered (landing : Landing)
  | refused (message : String)
  | lost (landing : Landing) (message : String)

/-- How a wait for a transaction ends: when its receipt is known, without one, or early. -/
inductive Waiting where
  | answered (blockNumber : ℕ)
  | noReceipt
  | failed (message : String)

/-- The fate of an operation at each attempt of it. -/
@[reducible] def Fate : Op → Type
  | .send _ => ℕ → Sending
  | .wait _ => ℕ → Waiting
  | op => ℕ → Except String (Result op)

/-- A swap transaction that has reached the chain. -/
structure Transaction where
  hash : ℕ
  landing : Landing

/-- The attempts of the operations of a call, and its swap transactions. -/
structure Chain where
  attempts : Op → ℕ
  sent : List Transaction

namespace Chain

/-- The chain before a call. -/
def start : Chain := ⟨fun _ => 0, []⟩

/-- One more attempt of an operation. -/
def attempt (op : Op) (chain : Chain) : Chain :=
  { chain with attempts := Function.update chain.attempts op (chain.attempts op + 1) }

def reach (transaction : Transaction) (chain : Chain) : Chain :=
  { chain with sent := chain.sent ++ [transaction] }

def landingOf (chain : Chain) (hash : ℕ) : Option Landing :=
  (chain.sent.find? fun transaction => transaction.hash = hash).map Transaction.landing

/-- The number of swap transactions that land. -/
def landed (chain : Chain) : ℕ :=
  chain.sent.countP fun transaction => transaction.landing = .lands

end Chain

/-- The answer to a wait. A wait throws for a transaction that has reverted, and for one that is
gone. -/
def receiptOf (hash : ℕ) (landing : Option Landing) : Waiting → Except Failure (Option Receipt)
  | .failed message => .error (.other message)
  | .noReceipt => .ok none
  | .answered blockNumber =>
    match landing with
    | some .lands => .ok (some ⟨hash, some 1, blockNumber⟩)
    | some .reverts => .error (.other "transaction execution reverted")
    | _ => .error (.other "transaction was replaced")

def perform : (op : Op) → Fate op → Chain → Chain × Except Failure (Result op)
  | .send swap, fate, chain =>
    let hash := chain.attempts (.send swap)
    match fate hash with
    | .answered landing => (chain.attempt (.send swap) |>.reach ⟨hash, landing⟩, .ok hash)
    | .refused message => (chain.attempt (.send swap), .error (.other message))
    | .lost landing message =>
      (chain.attempt (.send swap) |>.reach ⟨hash, landing⟩, .error (.other message))
  | .wait hash, fate, chain =>
    (chain.attempt (.wait hash),
      receiptOf hash (chain.landingOf hash) (fate (chain.attempts (.wait hash))))
  | .getAmountsOut amountIn path, fate, chain =>
    (chain.attempt (.getAmountsOut amountIn path),
      (fate (chain.attempts (.getAmountsOut amountIn path))).mapError .other)
  | .getFeeData, fate, chain =>
    (chain.attempt .getFeeData, (fate (chain.attempts .getFeeData)).mapError .other)
  | .allowance token spender, fate, chain =>
    (chain.attempt (.allowance token spender),
      (fate (chain.attempts (.allowance token spender))).mapError .other)
  | .approve token spender, fate, chain =>
    (chain.attempt (.approve token spender),
      (fate (chain.attempts (.approve token spender))).mapError .other)
  | .waitApproval hash, fate, chain =>
    (chain.attempt (.waitApproval hash),
      (fate (chain.attempts (.waitApproval hash))).mapError .other)
  | .estimateGas swap, fate, chain =>
    (chain.attempt (.estimateGas swap),
      (fate (chain.attempts (.estimateGas swap))).mapError .other)
  | .getBalance, fate, chain =>
    (chain.attempt .getBalance, (fate (chain.attempts .getBalance)).mapError .other)

/-- The chain, as the executor reaches it. -/
abbrev network : Async.Service where
  State := Chain
  Op := Op
  Result := Result
  Failure := Failure
  Fate := Fate
  perform := perform

abbrev Call (Value : Type) := Async.Program network Value

def await (op : Op) : Call (Result op) := @Async.Program.perform network op

/-- Await an operation of which a failure is retried. The pauses between the attempts are left
out. -/
def withRetry {Value : Type} (body : Call Value) (retries : ℕ) : Call Value :=
  retry body retries (.other "undefined")

/-- `throw new PancakeSwapExecutorError(message, code)`. -/
def refuse {Value : Type} (message : String) (code : Code) : Call Value :=
  failed (.executor message code)

/-! ### The swap -/

structure PancakeSwapParams where
  tokenIn : String
  tokenOut : String
  amountIn : ℚ

structure PancakeSwapResult where
  txHash : ℕ
  status : ℕ
  blockNumber : ℕ
  tokenIn : String
  tokenOut : String
  amountInWei : ℤ
  amountOutMin : ℤ
  expectedAmountOut : ℤ
  gasEstimate : ℕ

def assertBscChain (env : Env) : Call Unit :=
  if env.chain ≠ "BSC" ∧ env.chain ≠ "BSC_MAINNET" ∧ env.chain ≠ "56" then
    refuse ("DEFAULT_CHAIN must be BSC for Pancake executor (got " ++ env.chain ++ ")") .chain
  else pure ()

def hexOf (key : String) : String := if "0x".isPrefixOf key then key else "0x" ++ key

/-- `privateKey`. -/
def loadKey (env : Env) : Call String :=
  match env.key with
  | none =>
    refuse "Set BSC_TRADER_PRIVATE_KEY or HOT_WALLET_PRIVATE_KEY for on-chain signing" .config
  | some key =>
    if isKey (hexOf key).toList then pure (hexOf key) else refuse "Invalid private key format" .config

def checksum (env : Env) (address : String) : Call String :=
  ofExcept ((env.getAddress address).mapError .other)

structure ResolvedToken where
  address : String
  isNative : Bool
  decimals : ℕ

def resolveTokenAddress (env : Env) (symbol : String) : Call ResolvedToken :=
  if normSymbol symbol = "BNB" ∨ normSymbol symbol = "WBNB" then do
    let address ← checksum env env.wbnb
    pure ⟨address, normSymbol symbol = "BNB", 18⟩
  else if normSymbol symbol = "USDT" then do
    let address ← checksum env usdtBsc
    pure ⟨address, false, 18⟩
  else refuse ("Unsupported token symbol: " ++ symbol) .config

/-- What `buildPath` finds. -/
structure Route where
  path : List String
  usesEthIn : Bool
  usesEthOut : Bool

def buildPath (env : Env) (tokenIn tokenOut : String) : Call Route := do
  let a ← resolveTokenAddress env tokenIn
  let b ← resolveTokenAddress env tokenOut
  let w ← checksum env env.wbnb
  if a.isNative ∨ normSymbol tokenIn = "WBNB" then
    if b.isNative ∨ normSymbol tokenOut = "WBNB" then
      refuse "Cannot swap BNB to BNB" .config
    else pure ⟨[w, b.address], a.isNative, b.isNative⟩
  else if b.isNative ∨ normSymbol tokenOut = "WBNB" then
    pure ⟨[a.address, w], a.isNative, b.isNative⟩
  else pure ⟨[a.address, w, b.address], a.isNative, b.isNative⟩

/-- `parseUnits(String(amount), decimals)`: numbers that print with an exponent are refused. -/
def parseUnits (amount : ℚ) (decimals : ℕ) : Call ℤ :=
  if amount ≠ 0 ∧ (|amount| < 1 / 10 ^ 6 ∨ 10 ^ 21 ≤ |amount|) then
    failed (.other "invalid FixedNumber string value")
  else if (amount * 10 ^ decimals).den = 1 then pure (amount * 10 ^ decimals).num
  else failed (.other "too many decimals for format")

def parseAmountInWei (env : Env) (tokenIn : String) (amount : ℚ) : Call ℤ :=
  if normSymbol tokenIn = "BNB" ∨ normSymbol tokenIn = "WBNB" then parseUnits amount 18
  else do
    let token ← resolveTokenAddress env tokenIn
    parseUnits amount token.decimals

/-- The quote of a swap, and the least that it is to bring. -/
structure Quote where
  expectedOut : ℤ
  amountOutMin : ℤ

/-- `decOut`. -/
def outDecimals (env : Env) (tokenOut : String) : Call ℕ :=
  if normSymbol tokenOut = "BNB" ∨ normSymbol tokenOut = "WBNB" then pure 18
  else do
    let token ← resolveTokenAddress env tokenOut
    pure token.decimals

/-- A quote that brings less than the environment asks for is refused. -/
def checkOutput (env : Env) (outHuman : ℚ) : Call Unit :=
  match env.minOutputHumanThreshold with
  | none => pure ()
  | some minHuman =>
    if outHuman < minHuman then
      refuse ("Expected output " ++ Numeric.text outHuman ++ " below PANCAKE_MIN_OUTPUT_HUMAN (" ++
        Numeric.text minHuman ++ ")") .liquidity
    else pure ()

def quoteSwap (env : Env) (params : PancakeSwapParams) (amountInWei : ℤ) (path : List String) :
    Call Quote := do
  let amounts ← withRetry (await (.getAmountsOut amountInWei path)) 3
  let expectedOut : ℤ := amounts.getLast?.getD 0
  if expectedOut = 0 then
    refuse "Router returned zero output — insufficient liquidity" .liquidity
  else do
    let amountOutMin := expectedOut * (10000 - env.readSlippageBps) / 10000
    if amountOutMin = 0 then
      refuse "amountOutMin collapsed to zero — increase size or lower slippage" .slippage
    else do
      let decOut ← outDecimals env params.tokenOut
      checkOutput env (fromUnits expectedOut.toNat decOut)
      pure ⟨expectedOut, amountOutMin⟩

/-- `feeData.gasPrice ?? (await provider.getFeeData()).gasPrice ?? 0n`. -/
def gasPriceOf : Call ℕ := do
  let gasPrice ← await .getFeeData
  match gasPrice with
  | some gasPrice => pure gasPrice
  | none => do
    let again ← await .getFeeData
    pure (again.getD 0)

/-- An allowance that is too small is raised. -/
def ensureAllowance (token spender : String) (amountInWei : ℤ) : Call Unit := do
  let allowance ← await (.allowance token spender)
  if allowance < amountInWei then do
    let hash ← withRetry (await (.approve token spender)) 3
    let receipt ← await (.waitApproval hash)
    if (receipt.bind Receipt.status).getD 0 = 0 then refuse "Approve failed" .tx
    else pure ()
  else pure ()

/-- The approval that a route needs. -/
def approveInput (env : Env) (params : PancakeSwapParams) (route : Route) (amountInWei : ℤ) :
    Call Unit :=
  if route.usesEthIn then pure ()
  else if route.usesEthOut then do
    let token ← resolveTokenAddress env params.tokenIn
    ensureAllowance token.address env.routerAddress amountInWei
  else do
    let token ← resolveTokenAddress env params.tokenIn
    let spender ← checksum env env.routerAddress
    ensureAllowance token.address spender amountInWei

def methodOf (route : Route) : Method :=
  if route.usesEthIn then .swapExactETHForTokens
  else if route.usesEthOut then .swapExactTokensForETH
  else .swapExactTokensForTokens

def gasCostBuffered (env : Env) (gasEstimate gasPrice : ℕ) : ℤ :=
  gasEstimate * gasPrice * env.gasBufferNumerator / 10000

def valueForTx (route : Route) (amountInWei : ℤ) : ℤ := if route.usesEthIn then amountInWei else 0

/-- What has been settled of a swap when it is sent. -/
structure PreparedSwap where
  swap : RouterCall
  expectedOut : ℤ
  gasEstimate : ℕ

/-- Everything before the swap is sent. -/
def prepareSwap (env : Env) (params : PancakeSwapParams) : Call PreparedSwap := do
  assertBscChain env
  let key ← loadKey env
  let route ← buildPath env params.tokenIn params.tokenOut
  let amountInWei ← parseAmountInWei env params.tokenIn params.amountIn
  if amountInWei ≤ 0 then refuse "amountIn must be positive" .config
  else do
    let quote ← quoteSwap env params amountInWei route.path
    let gasPrice ← gasPriceOf
    if gasPrice = 0 then refuse "Could not resolve gas price" .gas
    else do
      let swap : RouterCall :=
        { method := methodOf route, amountIn := amountInWei, amountOutMin := quote.amountOutMin
          path := route.path, recipient := env.addressOf key, deadline := env.now + 20 * 60 }
      approveInput env params route amountInWei
      let gasEstimate ← withRetry (await (.estimateGas swap)) 3
      let balance ← await .getBalance
      let needed := gasCostBuffered env gasEstimate gasPrice + valueForTx route amountInWei
      if balance < needed then
        refuse ("Insufficient BNB for gas + value: need ~" ++ formatUnits needed.toNat 18 ++
          " BNB") .gas
      else pure ⟨swap, quote.expectedOut, gasEstimate⟩

def awaitReceipt (params : PancakeSwapParams) (prepared : PreparedSwap) (hash : ℕ) :
    Call PancakeSwapResult := do
  let receipt ← withRetry (await (.wait hash)) 5
  match receipt with
  | none => refuse "No receipt from network" .network
  | some receipt =>
    if receipt.status.getD 0 ≠ 1 then
      refuse ("Swap reverted (tx " ++ toString receipt.hash ++ ")") .tx
    else
      pure
        { txHash := receipt.hash
          status := receipt.status.getD 0
          blockNumber := receipt.blockNumber
          tokenIn := params.tokenIn
          tokenOut := params.tokenOut
          amountInWei := prepared.swap.amountIn
          amountOutMin := prepared.swap.amountOutMin
          expectedAmountOut := prepared.expectedOut
          gasEstimate := prepared.gasEstimate }

def sendSwap (params : PancakeSwapParams) (prepared : PreparedSwap) : Call PancakeSwapResult := do
  let hash ← withRetry (await (.send prepared.swap)) 3
  awaitReceipt params prepared hash

def executePancakeSwap (env : Env) (params : PancakeSwapParams) : Call PancakeSwapResult := do
  let prepared ← prepareSwap env params
  sendSwap params prepared

end GdslExchange.Pancake
