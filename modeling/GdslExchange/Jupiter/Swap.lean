/-
This file models `executeJupiterSwap`: the swap on the chain, and the trade that
books it.

The swap comes first and cannot be undone. The order of the awaits after it is
the source's: the price check, the strategy, the in-flight guard of a buy, the
look for an OPEN row, the write and, after a buy that found one, the merge of
duplicate rows.
-/

import GdslExchange.Jupiter.Book

namespace GdslExchange.Jupiter

open Async (Stored)
open Async.Program
open Numeric

/-! ### Amounts -/

structure Settings where
  solanaWalletEnabled : Bool
  jupiterConfigured : Bool
  dexAutoExitSlippageBps : ℚ

/-- `JupiterExecuteOptions`. -/
structure ExecuteOptions where
  skipEntryGuard : Bool := false
  skipPreview : Bool := false
  partialSkim : Bool := false
  smartRoute : Bool := true

def solUsdcMint : String := "EPjFWdd5AufqSSqeM2qN1xzybapC8G4wEGGkZwyTDt1v"
def solNativeMint : String := "So11111111111111111111111111111111111111112"

def solGasReserve : ℚ := 3 / 1000

def toSmallest (amountHuman : ℚ) (decimals : ℕ) : ℕ :=
  (max 1 ⌊amountHuman * 10 ^ decimals⌋).toNat

def fromSmallest (raw decimals : ℕ) : ℚ := raw / 10 ^ decimals

/-- `Math.floor(qty * factor) / factor` with `factor = 10 ** Math.min(decimals, 8)`. -/
def floorTo (decimals : ℕ) (quantity : ℚ) : ℚ :=
  ⌊quantity * 10 ^ min decimals 8⌋ / 10 ^ min decimals 8

def roundTripRealizedPnl (buyAlloc buyEntry sellExit : ℚ) : ℚ :=
  if buyAlloc ≤ 0 ∨ buyEntry ≤ 0 ∨ sellExit ≤ 0 then 0
  else roundTo 8 (buyAlloc * (sellExit / buyEntry - 1))

/-! ### Before the swap -/

/-- `SpendMintInfo`. -/
structure SpendMint where
  mint : String
  decimals : ℕ
  usdPerUnit : ℚ
  isNativeSol : Bool

def SpendAsset.mint : SpendAsset → String
  | usdc => solUsdcMint
  | sol => solNativeMint

def spendDecimals (mint : String) : Call ℕ :=
  if mint = solUsdcMint then pure 6
  else if mint = solNativeMint then pure 9
  else await (.getSolanaMintDecimals mint)

def spendUsdPerUnit (mint : String) : Call ℚ :=
  if mint = solUsdcMint then pure 1
  else do
    let price ← await (.fetchJupiterPrice mint)
    pure ((price.filter fun value => value > 0).getD 0)

def resolveSpendMint (request : SwapRequest) : Call SpendMint := do
  let explicit := (request.spendMint.map fun mint => mint.trimAscii.toString).filter (· ≠ "")
  let mint := explicit.getD (request.spendAsset.getD .usdc).mint
  let decimals ← spendDecimals mint
  let usdPerUnit ← spendUsdPerUnit mint
  pure ⟨mint, decimals, usdPerUnit, mint = solNativeMint⟩

/-- What the order is paid with. -/
def spendOf (request : SwapRequest) : Call SpendMint :=
  match request.side with
  | .buy => resolveSpendMint request
  | .sell => pure ⟨solUsdcMint, 6, 1, false⟩

def hydrateSolTokenDecimals (token : Token) : Call Token :=
  recover (do
    let onChain ← await (.getSolanaMintDecimals token.mint)
    pure (if onChain = token.decimals then token else { token with decimals := onChain }))
    fun _ => pure token

/-- The preview, unless it is skipped. -/
def checkPreview (request : SwapRequest) (options : ExecuteOptions) : Call Unit :=
  if options.skipPreview then pure () else do
    let fresh ← await (.previewJupiterSwap request options.skipEntryGuard)
    throwIf (!fresh.tradable) (fresh.message.getD "No executable Jupiter route for this pair.")
    throwIf fresh.blockTrade
      ((fresh.blockReason.or fresh.message).getD "Trade blocked to protect PnL.")

def SpendMint.label (spend : SpendMint) : String :=
  if spend.mint = solUsdcMint then "USDC" else if spend.isNativeSol then "SOL"
  else "the selected token"

/-- `amountHuman`: what the wallet can pay of the requested amount. -/
def payable (request : SwapRequest) (token : Token) (spend : SpendMint) : Call ℚ :=
  match request.side with
  | .buy => do
    let bal ← await (.getSolanaTokenBalance spend.mint spend.decimals)
    let needed := if spend.isNativeSol then request.amount + solGasReserve else request.amount
    let dp := if spend.isNativeSol then 4 else if spend.mint = solUsdcMint then 2 else 6
    throwIf (bal < needed)
      ("Insufficient " ++ spend.label ++ " — need " ++ (toFixed dp needed).render ++ ", have " ++
        (toFixed dp bal).render ++
        if spend.isNativeSol then " (keeps " ++ text solGasReserve ++ " SOL for fees)" else "")
    pure request.amount
  | .sell => do
    let bal ← await (.getSolanaTokenBalance token.mint token.decimals)
    throwIf (bal ≤ 0) ("Insufficient " ++ token.baseSymbol ++ " balance")
    pure (min request.amount bal)

/-- The venue filter of the smart route. Nothing about it fails the trade. -/
def preferredDexes (request : SwapRequest) (options : ExecuteOptions) : Call (Option String) :=
  if options.smartRoute then
    recover (do
      let pick ← await (.pickBestJupiterDexFilter request)
      pure (pick.filter (· ≠ "")))
      fun _ => pure none
  else pure none

/-- `/failed to get quote/i.test(msg)`. -/
def failedToGetQuote (message : String) : Bool :=
  (message.toLower.splitOn "failed to get quote").length > 1

/-- A quote also fails when the wallet has no gas. -/
def topUpGas (message : String) : Call Unit :=
  if failedToGetQuote message then await .ensureSolanaSwapGas else pure ()

/-- The order, retried without the venue filter. -/
def placeOrder (request : OrderRequest) : Call Order :=
  recover (await (.getJupiterOrder request)) fun message =>
    if request.dexes.isSome ∨ failedToGetQuote message then do
      topUpGas message
      let wider := if request.dexes.isSome then request.slippageBps else 300
      await (.getJupiterOrder { request with
        slippageBps := min 2000 (max request.slippageBps wider), dexes := none })
    else failed message

/-- `submitJupiterExecute` reads the answer of the execute endpoint. -/
def readExecuteReply (reply : ExecuteReply) : Except String (Option String) :=
  if !reply.ok then
    .error ((reply.error.or reply.message).getD
      ("Jupiter execute HTTP " ++ toString reply.httpStatus))
  else if (reply.status.any fun status => status ≠ "" ∧ status ≠ "Success") ∧
      reply.signature.all (· = "") then
    .error (reply.error.getD ("Jupiter execute status: " ++ reply.status.getD ""))
  else .ok reply.signature

/-- The signature that the swap is known by. -/
def executedSignature (reply : ExecuteReply) : Except String String :=
  match readExecuteReply reply with
  | .error message => .error message
  | .ok signature =>
    if signature.all (· = "") then .error "Jupiter execute did not return a signature"
    else .ok (signature.getD "")

/-- The exchange answered with a signature. -/
def wasExecuted (reply : ExecuteReply) : Bool := (executedSignature reply).isOk

/-! ### The swap -/

def swapDecimals (side : Side) (token : Token) (spend : SpendMint) : ℕ × ℕ :=
  match side with
  | .buy => (spend.decimals, token.decimals)
  | .sell => (token.decimals, 6)

def Order.swap (order : Order) (request : SwapRequest) (options : ExecuteOptions)
    (token : Token) (spend : SpendMint) (amountHuman : ℚ) (amountIn : ℕ) : Swap :=
  let decimals := swapDecimals request.side token spend
  { side := request.side
    partialSkim := options.partialSkim
    inputMint := match request.side with
      | .buy => spend.mint
      | .sell => token.mint
    asked := amountHuman
    inAmount := fromSmallest (order.inAmount.getD amountIn) decimals.1
    outAmount := fromSmallest order.outAmount decimals.2 }

/-- A transaction that is ready to be submitted. -/
structure Prepared where
  token : Token
  signed : SignedTransaction
  amountIn : ℕ
  expectedOut : ℕ
deriving DecidableEq

/-- `executeJupiterSwap`, up to the submission. -/
def prepareSwap (settings : Settings) (request : SwapRequest) (options : ExecuteOptions) :
    Call Prepared := do
  throwIf (!settings.solanaWalletEnabled)
    "Solana wallet is not configured (WALLET_ENCRYPTION_KEY)."
  throwIf (!settings.jupiterConfigured) "Jupiter is not configured (JUPITER_API_KEY)."
  throwIf (request.amount ≤ 0) "amount must be positive"
  await .ensureSolanaPersonalWallet
  await .ensureSolanaSwapGas
  checkPreview request options
  let tokenRaw? ← await (.getJupiterTradableToken request.binanceSymbol)
  let tokenRaw ← orThrow tokenRaw?
    ("This pair is not available on Solana via Jupiter (" ++ request.binanceSymbol ++ ").")
  let token ← hydrateSolTokenDecimals tokenRaw
  let slippageBps := min 2000 (max 10 (request.slippageBps.getD 100))
  let spend ← spendOf request
  let taker ← await .getSolanaKeypair
  let amountHuman ← payable request token spend
  let amountIn := toSmallest amountHuman (swapDecimals request.side token spend).1
  let dexes ← preferredDexes { request with
    amount := amountHuman
    spendMint := if request.side = .buy then some spend.mint else none
    spendAsset := none
    slippageBps := some slippageBps } options
  let order ← placeOrder {
    inputMint := if request.side = .buy then spend.mint else token.mint
    outputMint := if request.side = .buy then token.mint else solUsdcMint
    amount := amountIn
    taker := taker
    slippageBps := slippageBps
    dexes := dexes }
  let transaction ← orThrow (order.transaction.filter (· ≠ ""))
    "Jupiter did not return a transaction — check wallet SOL for fees or try again."
  let swap := order.swap request options token spend amountHuman amountIn
  pure ⟨token, ⟨transaction, taker, order.requestId, swap⟩, order.inAmount.getD amountIn,
    order.outAmount⟩

/-- An operation of the preparation. -/
def Preparing : Op → Prop
  | .ensureSolanaPersonalWallet => True
  | .ensureSolanaSwapGas => True
  | .previewJupiterSwap _ _ => True
  | .getJupiterTradableToken _ => True
  | .getSolanaMintDecimals _ => True
  | .fetchJupiterPrice _ => True
  | .getSolanaKeypair => True
  | .getSolanaTokenBalance _ _ => True
  | .pickBestJupiterDexFilter _ => True
  | .getJupiterOrder _ => True
  | _ => False

/-- An operation of the preparation that asks for no order. -/
def Surveying : Op → Prop
  | .getJupiterOrder _ => False
  | op => Preparing op

theorem Surveying.preparing : ∀ op, Surveying op → Preparing op
  | .getJupiterOrder _, surveying => surveying.elim
  | .ensureSolanaPersonalWallet, _ => trivial
  | .ensureSolanaSwapGas, _ => trivial
  | .previewJupiterSwap _ _, _ => trivial
  | .getJupiterTradableToken _, _ => trivial
  | .getSolanaMintDecimals _, _ => trivial
  | .fetchJupiterPrice _, _ => trivial
  | .getSolanaKeypair, _ => trivial
  | .getSolanaTokenBalance _ _, _ => trivial
  | .pickBestJupiterDexFilter _, _ => trivial

section Preparing

variable {request : SwapRequest} {options : ExecuteOptions}

theorem only_spendOf : (spendOf request).Only Surveying := by
  unfold spendOf
  split
  · unfold resolveSpendMint
    refine only_bind ?_ fun _ => only_bind ?_ fun _ => trivial
    · unfold spendDecimals
      split_ifs
      · trivial
      · trivial
      · exact only_perform trivial
    · unfold spendUsdPerUnit
      split_ifs
      · trivial
      · exact only_then trivial fun _ => trivial
  · trivial

theorem only_hydrateSolTokenDecimals (token : Token) :
    (hydrateSolTokenDecimals token).Only Surveying :=
  only_recover (only_then trivial fun _ => trivial) fun _ => trivial

theorem only_checkPreview : (checkPreview request options).Only Surveying := by
  unfold checkPreview
  split
  · trivial
  · exact only_then trivial fun _ => only_bind only_throwIf fun _ => only_throwIf

theorem only_payable {token : Token} {spend : SpendMint} :
    (payable request token spend).Only Surveying := by
  unfold payable
  split
  · exact only_then trivial fun _ => only_bind only_throwIf fun _ => trivial
  · exact only_then trivial fun _ => only_bind only_throwIf fun _ => trivial

theorem only_preferredDexes : (preferredDexes request options).Only Surveying := by
  unfold preferredDexes
  split
  · exact only_recover (only_then trivial fun _ => trivial) fun _ => trivial
  · trivial

theorem only_placeOrder {order : OrderRequest} : (placeOrder order).Only Preparing := by
  have placed : ∀ request, (await (.getJupiterOrder request)).Only Preparing :=
    fun _ => only_perform trivial
  refine only_recover (placed order) fun message => ?_
  split
  · have topUp : (topUpGas message).Only Preparing := by
      unfold topUpGas
      split
      · exact only_perform trivial
      · trivial
    exact only_bind topUp fun _ => placed _
  · trivial

theorem only_prepareSwap {settings : Settings} :
    (prepareSwap settings request options).Only Preparing := by
  have prepares {Value : Type} {survey : Call Value} (only : survey.Only Surveying) :
      survey.Only Preparing := only.mono Surveying.preparing
  refine only_bind only_throwIf fun _ => only_bind only_throwIf fun _ =>
    only_bind only_throwIf fun _ => only_then trivial fun _ =>
    only_then trivial fun _ => only_bind (prepares only_checkPreview) fun _ =>
    only_then trivial fun _ => only_bind only_orThrow fun _ =>
    only_bind (prepares (only_hydrateSolTokenDecimals _)) fun _ =>
    only_bind (prepares only_spendOf) fun _ => only_then trivial fun _ =>
    only_bind (prepares only_payable) fun _ => only_bind (prepares only_preferredDexes) fun _ =>
    only_bind only_placeOrder fun _ => only_bind only_orThrow fun _ => trivial

theorem returns_prepareSwap {settings : Settings} : (prepareSwap settings request options).Returns
    fun prepared => prepared.signed.swap.side = request.side ∧
      0 ≤ prepared.signed.swap.inAmount := by
  refine returns_bind fun _ => returns_bind fun _ => returns_bind fun _ => returns_bind fun _ =>
    returns_bind fun _ => returns_bind fun _ => returns_bind fun _ => returns_bind fun _ =>
    returns_bind fun _ => returns_bind fun _ => returns_bind fun _ => returns_bind fun _ =>
    returns_bind fun _ => returns_bind fun _ => returns_bind fun _ => ⟨rfl, ?_⟩
  exact div_nonneg (Nat.cast_nonneg _) (pow_nonneg (by norm_num) _)

end Preparing

/-- The signature of the executed swap. -/
def submitSwap (signed : SignedTransaction) : Call String := do
  let reply ← await (.submitJupiterExecute signed)
  ofExcept (executedSignature reply)

/-! ### The price -/

/-- `safeEntry`, before the check against the mark. -/
def Swap.price (swap : Swap) : ℚ :=
  let dust : ℚ := 1 / 10 ^ 18
  let effective := match swap.side with
    | .buy => if swap.outAmount > dust then swap.inAmount / swap.outAmount else swap.inAmount
    | .sell => if swap.inAmount > dust then swap.outAmount / swap.inAmount else swap.outAmount
  if effective > 0 then effective
  else match swap.side with
    | .buy => swap.inAmount / max swap.outAmount dust
    | .sell => swap.outAmount / max swap.inAmount dust

/-- `safeAlloc`. -/
def Swap.alloc (swap : Swap) : ℚ :=
  roundTo 8 (match swap.side with
    | .buy => swap.inAmount
    | .sell => swap.outAmount)

def clampToMark (fillPrice : ℚ) (mark : Option ℚ) : ℚ :=
  match mark with
  | none => fillPrice
  | some mark =>
    if mark ≤ 0 then fillPrice
    else if fillPrice / mark > 4 ∨ fillPrice / mark < 1 / 4 then mark else fillPrice

def reconcileFillPriceWithMark (mint : String) (fillPrice : ℚ) : Call ℚ :=
  if fillPrice ≤ 0 then pure fillPrice
  else
    recover (do
      let mark ← await (.fetchJupiterPrice mint)
      pure (clampToMark fillPrice mark))
      fun _ => pure fillPrice

/-! ### The merge -/

/-- The OPEN rows, grouped by pair in the order of first occurrence. -/
def byPair (opens : List (Stored Trade)) : List (List (Stored Trade)) :=
  (opens.map fun stored => stored.row.pair).eraseDups.map fun pair =>
    opens.filter fun stored => stored.row.pair = pair

/-- The rows that a merge counts. -/
def Trade.Counted (trade : Trade) : Prop := trade.alloc > 0 ∧ trade.entryPrice > 0

instance (trade : Trade) : Decidable trade.Counted := by unfold Trade.Counted; infer_instance

def totalAlloc (lot : List (Stored Trade)) : ℚ :=
  (lot.map fun stored => if stored.row.Counted then stored.row.alloc else 0).sum

def weightedEntry (lot : List (Stored Trade)) : ℚ :=
  (lot.map fun stored =>
    if stored.row.Counted then stored.row.entryPrice * stored.row.alloc else 0).sum

def bankedSkim (lot : List (Stored Trade)) : ℚ :=
  (lot.map fun stored => max 0 stored.row.banked).sum

/-- The update of the oldest row of a pair. -/
def mergePatch (primary : Trade) (lot : List (Stored Trade)) : TradePatch where
  allocationUsd := some
    (if totalAlloc lot > 0 then some (totalAlloc lot) else primary.allocationUsd)
  entryPrice := some
    (if totalAlloc lot > 0 ∧ weightedEntry lot > 0 then weightedEntry lot / totalAlloc lot
      else primary.entryPrice)
  pnl := if bankedSkim lot > 0 then some (bankedSkim lot) else none

/-- One pair's turn in the merge. -/
def mergeLot : List (Stored Trade) → Call Unit
  | primary :: extra :: rest => do
    let _ ← await (.updateTrade primary.id (mergePatch primary.row (primary :: extra :: rest)))
    await (.cancelOpenTrades ((extra :: rest).map Stored.id))
  | _ => pure ()

/-- The number of rows a merge cancels. -/
def duplicates (opens : List (Stored Trade)) : ℕ :=
  ((byPair opens).map fun lot => lot.length - 1).sum

def mergeDuplicateJupiterOpenTrades : Call ℕ := do
  await .ensureJupiterStrategyId
  let opens ← await .findOpenTrades
  if opens.length < 2 then pure 0
  else do
    forEach mergeLot (byPair opens)
    pure (duplicates opens)

/-- `mergeDuplicateJupiterOpenTrades(userId).catch(() => 0)`. -/
def tryMerge : Call ℕ := recover mergeDuplicateJupiterOpenTrades fun _ => pure 0

/-! ### The booking -/

/-- The `trade` of the result. -/
structure RecordedTrade where
  id : ℕ
  pair : String
  allocationUsd : ℚ
  entryPrice : ℚ
  exitPrice : Option ℚ
  pnl : Option ℚ
  side : String
  status : TradeStatus
deriving DecidableEq

/-- A new row for a swap that found none. -/
def newTrade (pair : String) (swap : Swap) (price : ℚ) : Trade where
  pair := pair
  entryPrice := price
  exitPrice := if swap.side = .sell then some price else none
  pnl := if swap.side = .sell then some 0 else none
  allocationUsd := if swap.alloc > 0 then some swap.alloc else none
  takeProfitPct := none
  status := if swap.side = .sell then .closed else .open

/-- A buy is added to the OPEN row. -/
def buyPatch (existing : Trade) (safeAlloc safeEntry : ℚ) : TradePatch :=
  let newAlloc := max 0 existing.alloc + safeAlloc
  { allocationUsd := some (some newAlloc)
    entryPrice := some (
      if existing.alloc > 0 ∧ existing.entryPrice > 0 ∧ safeAlloc > 0 then
        (existing.entryPrice * existing.alloc + safeEntry * safeAlloc) / newAlloc
      else safeEntry) }

def bookBuy (pair : String) (swap : Swap) (price : ℚ) : Call RecordedTrade := do
  let existing? ← await (.findOpenTrade pair)
  match existing? with
  | some existing => do
    let patch := buyPatch existing.row swap.alloc price
    let updated ← await (.updateTrade existing.id patch)
    let _ ← tryMerge
    let newRow := patch.apply existing.row
    pure ⟨updated.id, pair, newRow.alloc, newRow.entryPrice, none, none, "BUY", .open⟩
  | none => do
    let created ← await (.createTrade (newTrade pair swap price))
    pure ⟨created.id, pair, swap.alloc, price, none, none, "BUY", .open⟩

/-- The quantity that a row's cost bought. -/
def Trade.quantity (trade : Trade) : ℚ :=
  if trade.entryPrice > 0 then trade.alloc / trade.entryPrice else 0

/-- The sell only takes a slice off the row. -/
def Trade.TakesSlice (trade : Trade) (swap : Swap) : Prop :=
  swap.partialSkim ∧ trade.quantity > 0 ∧ swap.asked < trade.quantity * (95 / 100)

instance (trade : Trade) (swap : Swap) : Decidable (trade.TakesSlice swap) := by
  unfold Trade.TakesSlice; infer_instance

def Trade.skimAlloc (trade : Trade) (swap : Swap) : ℚ :=
  trade.alloc * min (95 / 100) (swap.asked / trade.quantity)

def Trade.remainingAlloc (trade : Trade) (swap : Swap) : ℚ :=
  max 0 (trade.alloc - trade.skimAlloc swap)

/-- A remainder of at most half a dollar is closed with the slice. -/
def dustAlloc : ℚ := 1 / 2

/-- The realized profit of a sell booked against a row. -/
def Trade.realized (trade : Trade) (swap : Swap) (price : ℚ) : ℚ :=
  roundTripRealizedPnl (if trade.TakesSlice swap then trade.skimAlloc swap else trade.alloc)
    trade.entryPrice price

/-- A sell shrinks the OPEN row or closes it. -/
def sellPatch (trade : Trade) (swap : Swap) (price : ℚ) : TradePatch :=
  let pnl := trade.banked + trade.realized swap price
  if trade.TakesSlice swap then
    if trade.remainingAlloc swap > dustAlloc then
      { allocationUsd := some (some (trade.remainingAlloc swap)), status := some .open,
        pnl := some pnl }
    else
      { allocationUsd := some none, status := some .closed, pnl := some pnl,
        exitPrice := some price }
  else { exitPrice := some price, pnl := some pnl, status := some .closed }

def bookSell (pair : String) (swap : Swap) (price : ℚ) : Call RecordedTrade := do
  let openPos? ← await (.findOpenTrade pair)
  match openPos? with
  | some openPos => do
    let row := openPos.row
    let updated ← await (.updateTrade openPos.id (sellPatch row swap price))
    if row.TakesSlice swap then
      let remainingAlloc := row.remainingAlloc swap
      if remainingAlloc > dustAlloc then
        pure ⟨updated.id, pair, remainingAlloc, row.entryPrice, none,
          some (row.realized swap price), "BUY", .open⟩
      else
        pure ⟨updated.id, pair, row.alloc, row.entryPrice, some price,
          some (row.realized swap price), "CLOSED", .closed⟩
    else do
      await (.cancelOtherTrades pair openPos.id)
      pure ⟨updated.id, pair, row.alloc, row.entryPrice, some price,
        some (row.banked + row.realized swap price), "CLOSED", .closed⟩
  | none => do
    let created ← await (.createTrade (newTrade pair swap price))
    pure ⟨created.id, pair, swap.alloc, price, some price, some 0, "SELL", .closed⟩

/-- The guard against a second buy of the pair. -/
def guardBuy (pair : String) : Call Unit := do
  let entered ← await (.enterBuy pair)
  throwIf (!entered)
    "A buy for this token is already in progress — wait a few seconds and refresh."

def book (pair : String) (swap : Swap) (price : ℚ) : Call RecordedTrade :=
  match swap.side with
  | .buy => do
    guardBuy pair
    andFinally (bookBuy pair swap price) (await (.leaveBuy pair))
  | .sell => bookSell pair swap price

/-- `JupiterSwapResult`. -/
structure SwapResult where
  txSignature : String
  side : Side
  binanceSymbol : String
  amountIn : ℕ
  expectedOut : ℕ
  trade : RecordedTrade
deriving DecidableEq

def executeJupiterSwap (settings : Settings) (request : SwapRequest)
    (options : ExecuteOptions) : Call SwapResult := do
  let prepared ← prepareSwap settings request options
  let swap := prepared.signed.swap
  let signature ← submitSwap prepared.signed
  let price ← reconcileFillPriceWithMark prepared.token.mint swap.price
  await .ensureJupiterStrategyId
  let trade ← book prepared.token.pair swap price
  pure ⟨signature, request.side, prepared.token.binanceSymbol, prepared.amountIn,
    prepared.expectedOut, trade⟩

/-! ### What a sell does to a row -/

section Selling

variable {row : Trade} {swap : Swap}

theorem Trade.funded_of_takesSlice (takes : row.TakesSlice swap) :
    0 < row.entryPrice ∧ 0 < row.alloc := by
  have someQuantity := takes.2.1
  unfold Trade.quantity at someQuantity
  split at someQuantity
  · next priced => exact ⟨priced, (div_pos_iff_of_pos_right priced).mp someQuantity⟩
  · exact absurd someQuantity (lt_irrefl _)

theorem Trade.skimAlloc_eq (takes : row.TakesSlice swap) :
    row.skimAlloc swap = swap.asked * row.entryPrice := by
  obtain ⟨priced, funded⟩ := Trade.funded_of_takesSlice takes
  obtain ⟨_, someQuantity, small⟩ := takes
  have below : swap.asked / row.quantity ≤ 95 / 100 := by
    rw [div_le_iff₀ someQuantity]
    linarith
  have cost := funded.ne'
  unfold Trade.skimAlloc
  rw [min_eq_right below]
  unfold Trade.quantity
  rw [if_pos priced]
  field_simp

/-- What is left after a slice was taken. -/
theorem Trade.remainingAlloc_eq (takes : row.TakesSlice swap) :
    row.remainingAlloc swap = row.alloc - swap.asked * row.entryPrice := by
  have funded := (Trade.funded_of_takesSlice takes).2
  have small : row.skimAlloc swap ≤ row.alloc * (95 / 100) :=
    mul_le_mul_of_nonneg_left (min_le_left _ _) funded.le
  unfold Trade.remainingAlloc
  rw [max_eq_right (by linarith), Trade.skimAlloc_eq takes]

def soldRow (row : Trade) (swap : Swap) (price : ℚ) : Trade := (sellPatch row swap price).apply row

theorem banked_soldRow (row : Trade) (swap : Swap) (price : ℚ) :
    (soldRow row swap price).banked = row.banked + row.realized swap price := by
  unfold soldRow sellPatch
  split_ifs <;> rfl

theorem entryPrice_soldRow (row : Trade) (swap : Swap) (price : ℚ) :
    (soldRow row swap price).entryPrice = row.entryPrice := by
  unfold soldRow sellPatch
  split_ifs <;> rfl

theorem isOpen_soldRow {price : ℚ} : (soldRow row swap price).IsOpen ↔
    row.TakesSlice swap ∧ row.remainingAlloc swap > dustAlloc := by
  unfold soldRow sellPatch
  split_ifs with takes moreThanDust
  · exact iff_of_true rfl ⟨takes, moreThanDust⟩
  · exact iff_of_false nofun fun both => moreThanDust both.2
  · exact iff_of_false nofun fun both => takes both.1

theorem alloc_soldRow {price : ℚ} (isOpen : (soldRow row swap price).IsOpen) :
    (soldRow row swap price).alloc = row.remainingAlloc swap := by
  obtain ⟨takes, moreThanDust⟩ := isOpen_soldRow.mp isOpen
  unfold soldRow sellPatch
  rw [if_pos takes, if_pos moreThanDust]
  rfl

end Selling

end GdslExchange.Jupiter
