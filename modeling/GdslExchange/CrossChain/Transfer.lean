/-
This file models the cross-chain transfer service: the debit of the user's
source wallet, the credit of his destination wallet by the operator, and the
retries of a credit that has not gone through.

The record's id accompanies the helpers that pay for it, so that a payment can
be told apart by what it was sent for. The fee sweep, which the service starts
without awaiting it, stands where it is started.
-/

import GdslExchange.CrossChain.Catalog

namespace GdslExchange.CrossChain

open Async (Stored)
open Async.Program
open Numeric

/-! ### Amounts -/

def transferFeeUsd : ℚ := 1 / 10
def minTransferUsd : ℚ := 1
def maxTransferUsd : ℚ := 5000

/-- `parseEther`, of a number with at most eighteen places. -/
def parseEther (amount : ℚ) : ℤ := ⌊amount * 10 ^ 18⌋

def minOperatorBnbForBridge : ℤ := parseEther (1 / 1000)

def bscMinNativeGasWei : ℤ := parseEther (8 / 10000)

def lamportsPerSol : ℚ := 10 ^ 9
def wbnbAddress : String := "0xbb4CdB9CBd36B01bD1cBaEBF2De08d9173bc095c"

def formatUnits (raw : ℤ) (decimals : ℕ) : String :=
  let amount : ℚ := raw / 10 ^ decimals
  if amount.den = 1 then text amount ++ ".0" else text amount

/-- `parseUnits(amount.toString(), decimals)`. Numbers below a millionth print with an exponent,
which it does not read. -/
def parseUnits (amount : ℚ) (decimals : ℕ) : Except String ℤ :=
  if amount ≠ 0 ∧ |amount| < 1 / 10 ^ 6 ∨ 10 ^ 21 ≤ |amount| then
    .error "invalid FixedNumber string value"
  else if (amount * 10 ^ decimals).den ≠ 1 then .error "too many decimals for format"
  else .ok ⌊amount * 10 ^ decimals⌋

def roundTokenAmount (amount : ℚ) (decimals : ℕ) : ℚ := roundTo (min decimals 8) amount

/-- `CrossChainQuote`. -/
structure Quote where
  asset : String
  amount : ℚ
  feeUsd : ℚ
  creditAmount : ℚ
  minAmount : ℚ
  maxAmount : ℚ
  destinationSymbol : String
  estimated : Bool

def computeRouteQuote (route : Route) (amount sourceUsdPrice destUsdPrice : ℚ) : Quote where
  asset := route.sourceSymbol
  amount := amount
  feeUsd := transferFeeUsd
  creditAmount :=
    if destUsdPrice > 0 then
      roundTokenAmount (max 0 (amount * sourceUsdPrice - transferFeeUsd) / destUsdPrice)
        route.destLeg.decimals
    else 0
  minAmount := minTransferUsd
  maxAmount := maxTransferUsd
  destinationSymbol := route.destSymbol
  estimated := !route.sameToken

/-- The amount of the source token to bridge, net of the fee. -/
def computeBridgeSourceAmount (route : Route) (amount sourceUsdPrice : ℚ) : ℚ :=
  let feeToken := if sourceUsdPrice > 0 then transferFeeUsd / sourceUsdPrice else 0
  roundTokenAmount (max 0 (amount - feeToken)) route.sourceLeg.decimals

/-! ### Prices -/

def walletPrice (userId : String) (route : Route) (sourceAmount : ℚ) : Call (Option ℚ) :=
  match route.direction with
  | .bscToSol => do
    let summary ← await (.getPersonalWalletSummary userId)
    let row := (summary.getD []).find? fun balance =>
      normalizeSymbol balance.asset = route.sourceSymbol ∨
        balance.asset.toUpper = route.sourceSymbol
    return row.bind fun balance =>
      (balance.usdPrice.filter fun price => price ≠ 0).or
        (if balance.usdValue ≠ 0 ∧ balance.amount > 0 then some (balance.usdValue / balance.amount)
          else none)
  | .solToBsc => do
    await (.ensureSolanaPersonalWallet userId)
    let holdings ← await (.listSolanaHoldings userId)
    let mint := route.sourceLeg.token
    if (holdings.any fun holding => holding.mint = mint) ∧ sourceAmount > 0 then
      let price ← await (.fetchJupiterPrice mint)
      return if mint = solUsdcMint then some 1 else price
    else return none

def priceSourceToken (userId : String) (route : Route) (sourceAmount : ℚ) : Call (Option ℚ) := do
  let tokenUsdPrice ← walletPrice userId route sourceAmount
  match tokenUsdPrice.filter fun price => price > 0 with
  | some price => return some price
  | none => await (.fetchLegUsdPrice route.sourceLeg.binanceSymbol)

def priceDestToken (route : Route) (sourceUsdPrice : ℚ) : Call (Option ℚ) :=
  if route.sameToken then return some sourceUsdPrice
  else await (.fetchLegUsdPrice route.destLeg.binanceSymbol)

/-- `CrossChainTransferPreview`. -/
structure Preview where
  quote : Quote
  sourceSymbol : String
  sourceAmount : ℚ
  tokenUsdPrice : ℚ
  destTokenUsdPrice : ℚ

/-- The arguments of a transfer. -/
structure TransferParams where
  direction : Direction
  amount : ℚ
  sourceSymbol : Option String := none
  destSymbol : Option String := none

def previewCrossChainTransfer (settings : Settings) (userId : String) (params : TransferParams) :
    Call Preview := do
  let sourceAmount := params.amount
  throwIf (sourceAmount ≤ 0) "Amount must be positive"
  let route ← ofExcept (resolveCrossChainRoute settings params.direction
    (params.sourceSymbol.getD "USDC") params.destSymbol)
  let sourcePrice ← priceSourceToken userId route sourceAmount
  let sourceUsdPrice ← orThrow (sourcePrice.filter fun price => price > 0)
    "Could not price this token for cross-chain quote — try again in a moment."
  let destPrice ← priceDestToken route sourceUsdPrice
  let destUsdPrice ← orThrow (destPrice.filter fun price => price > 0)
    s!"Could not price {route.destSymbol} right now — try a different destination coin or retry shortly."
  let usdValue := sourceAmount * sourceUsdPrice
  throwIf (usdValue < minTransferUsd)
    s!"Minimum transfer is about ${text minTransferUsd} (your amount ≈ ${(toFixed 2 usdValue).render})."
  throwIf (usdValue > maxTransferUsd) s!"Maximum transfer is about ${text maxTransferUsd}."
  let quote := computeRouteQuote route sourceAmount sourceUsdPrice destUsdPrice
  throwIf (quote.creditAmount ≤ 0) "Amount is too small after the settlement fee."
  return { quote := quote, sourceSymbol := route.sourceSymbol, sourceAmount := sourceAmount,
           tokenUsdPrice := sourceUsdPrice, destTokenUsdPrice := destUsdPrice }

/-! ### Payments on a chain -/

/-- Send a BSC transaction and wait for its receipt. -/
def submitOnBsc (transaction : Transaction) (reverted : String) : Call ℕ := do
  let hash ← await (.sendTransaction transaction)
  let receipt ← await (.waitForReceipt hash)
  throwIf (receipt ≠ some true) reverted
  return hash

def bscTokenBalance (address : String) (leg : Leg) : Call ℚ := do
  if leg.native then
    let raw ← await (.getBalance .bsc address)
    return raw / 10 ^ 18
  else
    let raw ← await (.getTokenBalance leg.token address)
    return raw / 10 ^ leg.decimals

def sendBscToken (signer : String) (leg : Leg) (recipient : String) (amount : ℚ)
    (purpose : Purpose) : Call TxRef := do
  if leg.native then
    let raw ← ofExcept (parseUnits amount 18)
    let balance ← await (.getBalance .bsc signer)
    throwIf (balance < raw)
      s!"Insufficient BNB — have {formatUnits balance 18}, need {text amount}"
    let hash ← submitOnBsc ⟨.bsc, signer, .pay recipient raw, purpose⟩ "BNB transfer reverted"
    return .sent hash
  else
    let raw ← ofExcept (parseUnits amount leg.decimals)
    let balance ← await (.getTokenBalance leg.token signer)
    throwIf (balance < raw)
      s!"Insufficient {leg.symbol} on BSC — have {formatUnits balance leg.decimals}, need {text amount}"
    let hash ← submitOnBsc ⟨.bsc, signer, .payToken leg.token recipient raw, purpose⟩
      s!"BSC {leg.symbol} transfer reverted"
    return .sent hash

def solTokenBalance (address : String) (leg : Leg) : Call ℚ := do
  if leg.native then
    let lamports ← await (.getBalance .sol address)
    return lamports / lamportsPerSol
  else
    await (.getMintProgramId leg.token)
    let raw ← (await (.getAccount leg.token address)).recover fun _ => return 0
    return raw / 10 ^ leg.decimals

def sendSolToken (signer : String) (leg : Leg) (recipient : String) (amount : ℚ)
    (purpose : Purpose) : Call TxRef := do
  if leg.native then
    let lamports := ⌊amount * lamportsPerSol⌋
    let hash ← await (.sendAndConfirmTransaction ⟨.sol, signer, .pay recipient lamports, purpose⟩)
    return .sent hash
  else
    await (.getMintProgramId leg.token)
    let sourceAmount ← (await (.getAccount leg.token signer)).recover fun _ =>
      failed s!"Source has no {leg.symbol} token account on Solana"
    let raw := ⌊amount * 10 ^ leg.decimals⌋
    throwIf (sourceAmount < raw) s!"Insufficient {leg.symbol} on Solana source"
    let found ← (await (.getAccount leg.token recipient) >>= fun _ => return true).recover
      fun _ => return false
    let action := if found then Action.payToken leg.token recipient raw
      else .payTokenToNewAccount leg.token recipient raw
    let hash ← await (.sendAndConfirmTransaction ⟨.sol, signer, action, purpose⟩)
    return .sent hash

/-! ### Gas -/

def ensureNativeBnbForGas (signer : String) (minNative : ℤ) (walletLabel : String) :
    Call Unit := do
  let native ← await (.getBalance .bsc signer)
  if native ≥ minNative then return ()
  else
    let wbnb ← await (.getTokenBalance wbnbAddress signer)
    throwIf (native + wbnb < minNative)
      s!"{walletLabel} needs BNB for gas — have {formatUnits native 18} native + {formatUnits wbnb 18} WBNB ({formatUnits (native + wbnb) 18} total). Deposit ~0.002 native BNB and try again."
    let deficit := minNative + parseEther (12 / 100000) - native
    let hash ← await (.sendTransaction ⟨.bsc, signer, .unwrap (min deficit wbnb), .gas⟩)
    let _ ← await (.waitForReceipt hash)
    let after ← await (.getBalance .bsc signer)
    throwIf (after < minNative)
      "Could not unwrap enough WBNB for gas — deposit a little native BNB and try again."

def topUpOperatorBridgeGasFromUser (userBscSigner opBscSigner : String) : Call Unit := do
  let opBal ← await (.getBalance .bsc opBscSigner)
  if opBal ≥ minOperatorBnbForBridge then return ()
  else
    let deficit := minOperatorBnbForBridge - opBal + parseEther (2 / 10000)
    ensureNativeBnbForGas userBscSigner (deficit + parseEther (15 / 100000)) "Your BSC wallet"
    let hash ← await (.sendTransaction ⟨.bsc, userBscSigner, .pay opBscSigner deficit, .gas⟩)
    let _ ← await (.waitForReceipt hash)
    let after ← await (.getBalance .bsc opBscSigner)
    throwIf (after < minOperatorBnbForBridge)
      s!"Could not fund operator bridge gas — operator still has {formatUnits after 18} BNB. Add ~0.002 BNB/WBNB to your BSC wallet or send native BNB to {opBscSigner}."

/-- The first characters of a text. -/
def sliceText (count : ℕ) (text : String) : String := String.ofList (text.toList.take count)

/-- What the operator holds of the destination token, for a route that can be settled from
inventory. -/
def operatorInventory (route : Route) (opBsc opSol : String) : Call (Option ℚ) :=
  if route.sameToken then
    match route.direction with
    | .bscToSol => do
      let balance ← solTokenBalance opSol route.destLeg
      return some balance
    | .solToBsc => do
      let balance ← bscTokenBalance opBsc route.destLeg
      return some balance
  else return none

def assertOperatorCanSettleCredit (route : Route) (creditAmount : ℚ) (opBsc opSol : String) :
    Call Unit := do
  let inventory ← operatorInventory route opBsc opSol
  if ∃ balance ∈ inventory, balance ≥ creditAmount then return ()
  else
    match route.direction with
    | .bscToSol =>
      let nativeBnb ← await (.getBalance .bsc opBsc)
      throwIf (nativeBnb < minOperatorBnbForBridge)
        s!"Cross-chain settlement is not ready yet — operator bridge wallet ({sliceText 10 opBsc}…) needs ~0.005 native BNB for gas before your transfer starts. Your funds were NOT moved."
    | .solToBsc =>
      let lamports ← await (.getBalance .sol opSol)
      throwIf (lamports / lamportsPerSol < 3 / 1000)
        "Cross-chain settlement is not ready yet — operator Solana bridge wallet needs a little SOL for gas before your transfer starts."

/-! ### The LI.FI bridge -/

/-- `toSmallestString`. -/
def toSmallest (amount : ℚ) (decimals : ℕ) : ℤ :=
  let fixed := toFixed (min decimals 12) (roundTo (min decimals 8) amount)
  fixed.units * 10 ^ (decimals - fixed.places)

def bscLiFiToken (leg : Leg) : String := if leg.native then nativeEvm else leg.token

def ensureEvmAllowance (signer : String) (quote : LiFiQuote) (fallbackToken : String)
    (fallbackAmount : ℤ) : Call Unit :=
  let fromToken := quote.fromToken.getD fallbackToken
  let spendAmount := quote.spendAmount.getD fallbackAmount
  match quote.approvalAddress with
  | none => return ()
  | some approvalAddress => do
    if fromToken.toLower = nativeEvm then return ()
    else
      let allowance ← await (.getAllowance fromToken signer approvalAddress)
      if allowance ≥ spendAmount then return ()
      else
        let hash ← await (.sendTransaction
          ⟨.bsc, signer, .approve fromToken approvalAddress spendAmount, .approval⟩)
        let _ ← await (.waitForReceipt hash)
        return ()

/-- The loop of `pollLiFiStatus`, for as many polls as the eight minutes allow. -/
def pollFor (fromChain toChain : Chain) (tool : Option String) (hash : ℕ) :
    ℕ → Call (Option String)
  | 0 => failed "Bridge is still processing — your transfer will complete shortly"
  | polls + 1 => do
    let status ← await (.fetchLiFiStatus fromChain toChain tool hash)
    match status with
    | .finished destTxHash => return destTxHash
    | .broken => failed "Cross-chain bridge failed on the destination chain"
    | .underway => pollFor fromChain toChain tool hash polls

def pollLiFiStatus (tool : Option String) (fromChain toChain : Chain) (hash : ℕ) :
    Call (Option String) := do
  let polls ← await .pollsInEightMinutes
  pollFor fromChain toChain tool hash polls

def bridgedRef (sourceTxHash : ℕ) (destTxHash : Option String) : TxRef :=
  (destTxHash.map TxRef.reported).getD (.sent sourceTxHash)

/-- The contract and the data a quote's transaction goes to, if it has both. -/
def bridgeTarget (quote : LiFiQuote) : Option (String × String × ℤ) :=
  quote.transactionRequest.bind fun request =>
    request.contract.bind fun contract => request.data.map fun data =>
      (contract, data, request.value)

def bridgeBscToSolanaViaLiFi (operatorSigner : String) (fromLeg toLeg : Leg) (amount : ℚ)
    (toSolanaAddress : String) (purpose : Purpose) : Call TxRef := do
  let fromAmount := toSmallest amount fromLeg.decimals
  let request : QuoteRequest :=
    { fromChain := .bsc, toChain := .sol, fromToken := bscLiFiToken fromLeg,
      toToken := toLeg.token, fromAmount := fromAmount, fromAddress := operatorSigner,
      toAddress := toSolanaAddress }
  let quote ← await (.fetchLiFiQuote request)
  let _ ← orThrow (bridgeTarget quote) "Bridge quote did not return a BSC transaction"
  ensureEvmAllowance operatorSigner quote (bscLiFiToken fromLeg) fromAmount
  let quote ← await (.fetchLiFiQuote request)
  let (contract, data, value) ← orThrow (bridgeTarget quote)
    "Bridge quote missing transaction after approval"
  let hash ← submitOnBsc ⟨.bsc, operatorSigner, .bridge contract data value, purpose⟩
    "Bridge transaction reverted on BSC"
  let destTxHash ← pollLiFiStatus quote.tool .bsc .sol hash
  return bridgedRef hash destTxHash

def bridgeSolanaToBscViaLiFi (operatorKp : String) (fromLeg toLeg : Leg) (amount : ℚ)
    (toBscAddress : String) (purpose : Purpose) : Call TxRef := do
  let request : QuoteRequest :=
    { fromChain := .sol, toChain := .bsc, fromToken := fromLeg.token,
      toToken := bscLiFiToken toLeg, fromAmount := toSmallest amount fromLeg.decimals,
      fromAddress := operatorKp, toAddress := toBscAddress }
  let quote ← await (.fetchLiFiQuote request)
  let data ← orThrow (quote.transactionRequest.bind TransactionRequest.data)
    "Bridge quote did not return a Solana transaction"
  let hash ← await (.sendTransaction ⟨.sol, operatorKp, .bridge "" data 0, purpose⟩)
  await (.confirmTransaction hash)
  let destTxHash ← pollLiFiStatus quote.tool .sol .bsc hash
  return bridgedRef hash destTxHash

/-! ### The credit leg -/

/-- The wallets of a credit: the user's and the operator's. -/
structure Wallets where
  userBsc : String
  userSol : String
  opBsc : String
  opSol : String

def runCreditLeg (route : Route) (bridgeSourceAmount creditAmount : ℚ) (wallets : Wallets)
    (id : ℕ) : Call TxRef := do
  let inventory ← operatorInventory route wallets.opBsc wallets.opSol
  if ∃ balance ∈ inventory, balance ≥ creditAmount then
    match route.direction with
    | .bscToSol =>
      sendSolToken wallets.opSol route.destLeg wallets.userSol creditAmount (.credit id)
    | .solToBsc =>
      sendBscToken wallets.opBsc route.destLeg wallets.userBsc creditAmount (.credit id)
  else
    match route.direction with
    | .bscToSol =>
      topUpOperatorBridgeGasFromUser wallets.userBsc wallets.opBsc
      ensureNativeBnbForGas wallets.opBsc minOperatorBnbForBridge "Operator bridge wallet"
      bridgeBscToSolanaViaLiFi wallets.opBsc route.sourceLeg route.destLeg bridgeSourceAmount
        wallets.userSol (.credit id)
    | .solToBsc =>
      bridgeSolanaToBscViaLiFi wallets.opSol route.sourceLeg route.destLeg bridgeSourceAmount
        wallets.userBsc (.credit id)

/-- `sweepTransferFeeToTreasury`: it never fails. -/
def sweepTransferFeeToTreasury (settings : Settings) (route : Route) (feeTokenAmount : ℚ)
    (wallets : Wallets) (id : ℕ) : Call Unit :=
  if feeTokenAmount > 0 then
    let sent := match route.sourceChain with
      | .bsc => sendBscToken wallets.opBsc route.sourceLeg settings.feeTreasuryBsc feeTokenAmount
          (.fee id)
      | .sol => sendSolToken wallets.opSol route.sourceLeg settings.feeTreasurySol feeTokenAmount
          (.fee id)
    (sent >>= fun _ => return ()).recover fun _ => return ()
  else return ()

/-! ### Transfers -/

/-- `CrossChainTransferResult`. -/
structure TransferResult where
  id : ℕ
  status : TransferStatus
  direction : Direction
  amount : ℚ
  creditAmount : ℚ
  feeUsd : ℚ
  debitTxRef : Option TxRef
  creditTxRef : Option TxRef

def Transfer.result (row : Transfer) (id : ℕ) : TransferResult where
  id := id
  status := row.status
  direction := row.direction
  amount := row.amount
  creditAmount := row.creditAmount
  feeUsd := row.feeUsd
  debitTxRef := row.debitTxRef
  creditTxRef := row.creditTxRef

def failedPatch (message : String) : TransferPatch where
  status := .failed
  errorMessage := some (some (sliceText 500 message))

def debitedPatch (debitTxRef : TxRef) : TransferPatch where
  status := .debited
  debitTxRef := some debitTxRef

def creditPendingPatch (message : String) : TransferPatch where
  status := .creditPending
  errorMessage := some (some (sliceText 500 message))

def completedPatch (creditTxRef : TxRef) : TransferPatch where
  status := .completed
  creditTxRef := some creditTxRef

/-- `Operator bridge wallets not configured`, unless both are. -/
def operatorWallets (settings : Settings) : Option (String × String) :=
  settings.hotWalletSigner.bind fun opBsc => settings.operatorSolanaKeypair.map fun opSol =>
    (opBsc, opSol)

def isCrossChainTransferEnabled (settings : Settings) : Bool :=
  settings.hotWalletSigner.isSome && settings.operatorSolanaKeypair.isSome &&
    settings.isSolanaWalletEnabled

/-- The user has the gas and the tokens for the debit. -/
def requireUserFunds (route : Route) (amount : ℚ) (wallets : Wallets) : Call Unit :=
  match route.direction with
  | .bscToSol => do
    ensureNativeBnbForGas wallets.userBsc bscMinNativeGasWei "Your BSC wallet"
    let userBal ← bscTokenBalance wallets.userBsc route.sourceLeg
    throwIf (userBal < amount)
      s!"Insufficient {route.sourceSymbol} on BSC — you have {(toFixed 6 userBal).render} but tried {text amount}."
  | .solToBsc => do
    let lamports ← await (.getBalance .sol wallets.userSol)
    throwIf (lamports / lamportsPerSol < 3 / 1000)
      "Your Solana wallet needs a little SOL for gas. Deposit ~0.01 SOL and try again."
    let userBal ← solTokenBalance wallets.userSol route.sourceLeg
    throwIf (userBal < amount)
      s!"Insufficient {route.sourceSymbol} on Solana — you have {(toFixed 6 userBal).render} but tried {text amount}."

/-- A transfer that has been priced and may start. -/
structure Plan where
  route : Route
  quote : Quote
  bridgeSourceAmount : ℚ
  wallets : Wallets

/-- The part of `executeCrossChainTransfer` before the record is created. -/
def planTransfer (settings : Settings) (userId : String) (params : TransferParams) :
    Call Plan := do
  throwIf (isCrossChainTransferEnabled settings = false)
    "Cross-chain transfer is not available on this server (operator bridge wallets not configured)."
  throwIf (params.amount ≤ 0) "Amount must be positive"
  await (.ensureSolanaPersonalWallet userId)
  let route ← ofExcept (resolveCrossChainRoute settings params.direction
    (params.sourceSymbol.getD "USDC") params.destSymbol)
  let preview ← previewCrossChainTransfer settings userId
    { direction := params.direction, amount := params.amount,
      sourceSymbol := some route.sourceSymbol, destSymbol := some route.destSymbol }
  let amount := preview.quote.amount
  let bridgeSourceAmount := computeBridgeSourceAmount route amount preview.tokenUsdPrice
  throwIf (bridgeSourceAmount ≤ 0) "Amount is too small after the settlement fee."
  let (opBsc, opSol) ← orThrow (operatorWallets settings) "Operator bridge wallets not configured"
  let userBsc ← await (.getPersonalSigner userId)
  let userSol ← await (.getSolanaKeypair userId)
  let wallets : Wallets :=
    { userBsc := userBsc, userSol := userSol, opBsc := opBsc, opSol := opSol }
  requireUserFunds route amount wallets
  assertOperatorCanSettleCredit route preview.quote.creditAmount opBsc opSol
  return { route := route, quote := preview.quote, bridgeSourceAmount := bridgeSourceAmount,
           wallets := wallets }

/-- The record of a transfer that starts. -/
def pendingTransfer (userId : String) (plan : Plan) : Transfer where
  userId := userId
  direction := plan.route.direction
  asset := plan.route.sourceSymbol
  destAsset := if plan.route.sameToken then none else some plan.route.destSymbol
  amount := plan.quote.amount
  feeUsd := plan.quote.feeUsd
  creditAmount := plan.quote.creditAmount
  status := .pending
  debitTxRef := none
  creditTxRef := none
  errorMessage := none
  requestedAt := 0

/-- The debit: from the user's wallet to the operator's on the source chain. -/
def sendDebit (plan : Plan) (id : ℕ) : Call TxRef :=
  match plan.route.direction with
  | .bscToSol => sendBscToken plan.wallets.userBsc plan.route.sourceLeg plan.wallets.opBsc
      plan.quote.amount (.debit id)
  | .solToBsc => sendSolToken plan.wallets.userSol plan.route.sourceLeg plan.wallets.opSol
      plan.quote.amount (.debit id)

def runDebitLeg (plan : Plan) (id : ℕ) : Call TxRef := do
  let debitTxRef ← (sendDebit plan id).recover fun message => do
    let _ ← await (.updateTransfer id (failedPatch message))
    failed message
  let _ ← await (.updateTransfer id (debitedPatch debitTxRef))
  return debitTxRef

def executeCrossChainTransfer (settings : Settings) (userId : String) (params : TransferParams) :
    Call TransferResult := do
  let plan ← planTransfer settings userId params
  let record ← await (.createTransfer (pendingTransfer userId plan))
  let debitTxRef ← runDebitLeg plan record.id
  let creditTxRef ← (runCreditLeg plan.route plan.bridgeSourceAmount plan.quote.creditAmount
      plan.wallets record.id).recover fun message => do
    let _ ← await (.updateTransfer record.id (creditPendingPatch message))
    failed "Your funds were received on BSC and are safe. Destination delivery will retry automatically once the operator bridge wallet has BNB for gas (~0.005 BNB). No action needed from you."
  let updated ← await (.updateTransfer record.id (completedPatch creditTxRef))
  sweepTransferFeeToTreasury settings plan.route (plan.quote.amount - plan.bridgeSourceAmount)
    plan.wallets record.id
  return { id := updated.id, status := updated.row.status, direction := params.direction,
           amount := plan.quote.amount, creditAmount := plan.quote.creditAmount,
           feeUsd := plan.quote.feeUsd, debitTxRef := some debitTxRef,
           creditTxRef := some creditTxRef }

/-- The rest of `executeCrossChainCreditLeg` once the wallets and the price are known. -/
def payCredit (settings : Settings) (record : Stored Transfer) (route : Route)
    (bridgeSourceAmount : ℚ) (wallets : Wallets) : Call TransferResult := do
  let creditTxRef ← (runCreditLeg route bridgeSourceAmount record.row.creditAmount wallets
      record.id).recover fun message => do
    let _ ← await (.updateTransfer record.id (creditPendingPatch message))
    failed message
  let updated ← await (.updateTransfer record.id
    { completedPatch creditTxRef with errorMessage := some none })
  sweepTransferFeeToTreasury settings route (record.row.amount - bridgeSourceAmount) wallets
    record.id
  return { updated.row.result updated.id with
    direction := record.row.direction, creditTxRef := some creditTxRef }

def executeCrossChainCreditLeg (settings : Settings) (userId : String) (transferId : ℕ) :
    Call TransferResult := do
  let found ← await (.findTransfer .creditLeg transferId userId)
  let record ← orThrow found "Transfer not found"
  if record.row.status = .completed then return record.row.result record.id
  else
    throwIf (record.row.debitTxRef = none) "Transfer has no debit — cannot credit"
    let route ← ofExcept (resolveCrossChainRoute settings record.row.direction record.row.asset
      (some (record.row.destAsset.getD record.row.asset)))
    let (opBsc, opSol) ← orThrow (operatorWallets settings)
      "Operator bridge wallets not configured"
    let userBsc ← await (.getPersonalSigner userId)
    let userSol ← await (.getSolanaKeypair userId)
    let sourceUsdPrice ← await (.fetchLegUsdPrice route.sourceLeg.binanceSymbol)
    let bridgeSourceAmount := computeBridgeSourceAmount route record.row.amount
      (sourceUsdPrice.getD 0)
    throwIf (bridgeSourceAmount ≤ 0) "Amount is too small after the settlement fee."
    payCredit settings record route bridgeSourceAmount
      { userBsc := userBsc, userSol := userSol, opBsc := opBsc, opSol := opSol }

/-! ### Retries -/

def retryCrossChainCredit (settings : Settings) (userId : String) (transferId : ℕ) :
    Call TransferResult := do
  let found ← await (.findTransfer .retry transferId userId)
  let record ← orThrow found "Transfer not found"
  if record.row.status = .completed then return record.row.result record.id
  else
    throwIf (record.row.status ≠ .creditPending ∧ record.row.status ≠ .debited)
      s!"Transfer cannot be retried in status {record.row.status.word}"
    throwIf (record.row.debitTxRef = none) "Missing debit transaction — contact support"
    executeCrossChainCreditLeg settings userId record.id

/-- The loop of `retryAllPendingCrossChainCredits`: how many credits went through. -/
def retryEach (settings : Settings) : List (Stored Transfer) → Call ℕ
  | [] => return 0
  | stored :: rest => do
    let finished ← (executeCrossChainCreditLeg settings stored.row.userId stored.id >>=
      fun _ => return 1).recover fun _ => return 0
    let others ← retryEach settings rest
    return finished + others

def retryAllPendingCrossChainCredits (settings : Settings) (limit : ℕ) : Call ℕ := do
  let pending ← await (.findPendingCredits limit)
  retryEach settings pending

/-! ### An example environment -/

/-- A server with both operator wallets. -/
def exampleSettings : Settings where
  hotWalletSigner := some "operator-bsc"
  operatorSolanaKeypair := some "operator-sol"
  isSolanaWalletEnabled := true
  feeTreasuryBsc := "treasury-bsc"
  feeTreasurySol := "treasury-sol"
  bscDexCatalog := []
  solDexCatalog := []

/-- A transfer of 100 USDT from BSC to Solana. -/
def usdtTransfer : TransferParams where
  direction := .bscToSol
  amount := 100
  sourceSymbol := some "USDT"

/-- An outside world in which nothing fails and every wallet is full. -/
def smooth : (op : Op) → Fate op
  | .ensureSolanaPersonalWallet _ => .ok ()
  | .getPersonalWalletSummary _ => .ok none
  | .listSolanaHoldings _ => .ok []
  | .fetchJupiterPrice _ => none
  | .fetchLegUsdPrice _ => none
  | .getPersonalSigner userId => .ok userId
  | .getSolanaKeypair userId => .ok userId
  | .getBalance _ _ => .ok (10 ^ 18)
  | .getTokenBalance _ _ => .ok (10 ^ 21)
  | .getMintProgramId _ => .ok ()
  | .getAccount _ _ => .ok (10 ^ 9)
  | .createTransfer _ => ⟨.answered, 0⟩
  | .findTransfer _ _ _ => .answered
  | .findPendingCredits _ => ⟨.answered, fun id => id⟩
  | .updateTransfer _ _ => .answered
  | .sendTransaction _ => .known true
  | .waitForReceipt _ => .arrived
  | .sendAndConfirmTransaction _ => .answered
  | .confirmTransaction _ => .ok ()
  | .fetchLiFiQuote _ => .error "Bridge quote failed"
  | .getAllowance _ _ _ => .ok 0
  | .pollsInEightMinutes => 120
  | .fetchLiFiStatus _ _ _ _ => .ok .underway

end GdslExchange.CrossChain
