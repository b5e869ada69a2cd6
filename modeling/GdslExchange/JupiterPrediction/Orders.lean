/-
This file models the buys, closes and claims of Jupiter prediction positions: the transaction that
the prediction API makes, its sending through the pool of endpoints, where every endpoint is given
the whole of sending and confirming, and the event that is recorded once it is confirmed.

The chain answers whatever it likes. An endpoint is given twenty-five seconds; what it is still
busy with goes on behind the back of the caller, and may land the transaction later.
-/

import GdslExchange.Async.Delivery
import GdslExchange.Async.Program
import GdslExchange.Numeric.Fixed

namespace GdslExchange.JupiterPrediction

open Async Async.Program Numeric

/-! ### Errors -/

/-- An error that is thrown, or the timeout of an endpoint, which no handler within it can
catch. -/
inductive Failure where
  | error (message : String)
  | timeout (url : String)
deriving DecidableEq

def Failure.message : Failure → String
  | error message => message
  | timeout url => "rpc timeout (" ++ url ++ ")"

/-- A regular expression of plain words, `/…/i`. -/
def mentions (words text : String) : Prop := words.toLower.toList <:+: text.toLower.toList

instance (words text : String) : Decidable (mentions words text) :=
  inferInstanceAs (Decidable (_ <:+: _))

def isPredictionLiquidityError (failure : Failure) : Prop :=
  mentions "polymarket_quote_unavailable" failure.message ∨
    mentions "liquidity is temporarily unavailable" failure.message ∨
      mentions "exit liquidity" failure.message

instance (failure : Failure) : Decidable (isPredictionLiquidityError failure) :=
  inferInstanceAs (Decidable (_ ∨ _))

def isRateLimited (failure : Failure) : Prop :=
  mentions "429" failure.message ∨ mentions "too many requests" failure.message ∨
    mentions "rate limit" failure.message

instance (failure : Failure) : Decidable (isRateLimited failure) :=
  inferInstanceAs (Decidable (_ ∨ _))

/-! ### The prediction API -/

structure PredictionTxMeta where
  blockhash : Option String
  lastValidBlockHeight : Option ℕ

/-- `PredictionTxResponse`, and the order of a buy. -/
structure PredictionTxResponse where
  transaction : Option String
  txMeta : Option PredictionTxMeta
  dataTransaction : Option String
  dataTxMeta : Option PredictionTxMeta
  orderPubkey : Option String

/-- What of the text of a refusal is JSON. -/
structure ParsedError where
  message : Option String
  code : Option String
  error : Option String

/-- A response that is not ok. -/
structure Refusal where
  raw : String
  parsed : Option ParsedError
  status : ℕ

/-- A position, its amounts in millionths as `parseInt` reads them. -/
structure Position where
  pubkey : String
  marketId : String
  isYes : Bool
  title : String
  totalCostUsd : ℤ
  valueUsd : Option ℤ
  pnlUsd : Option ℤ

/-- A request for a transaction. -/
inductive TxRequest where
  | order (ownerPubkey marketId : String) (isYes : Bool) (depositAmount : ℤ)
  | close (ownerPubkey positionPubkey : String) (minSellPriceSlippageBps : ℕ)
  | claim (ownerPubkey positionPubkey : String)

def parsedMessage (parsed : ParsedError) : Option String :=
  let message := parsed.message.or parsed.error
  if parsed.code = some "polymarket_quote_unavailable" ∨
      mentions "liquidity is temporarily unavailable" (message.getD "") then
    some ("Polymarket exit liquidity is temporarily unavailable. " ++
      "Wait 1–2 minutes and click Sell / Close (not Claim) — " ++
      "your ~$15 USDC is still in the position.")
  else message.filter (· ≠ "")

def formatPredictionApiError (refusal : Refusal) : String :=
  let fallback := "Prediction API error (" ++ toString refusal.status ++ ")"
  if refusal.raw = "" then fallback
  else (refusal.parsed.bind parsedMessage).getD (String.ofList (refusal.raw.toList.take 240))

/-! ### The desk -/

inductive Action where
  | buy
  | sell
  | claim
deriving DecidableEq

/-- What is logged of a position that is sold. -/
structure LogMeta where
  marketId : String
  positionPubkey : String
  title : String
  isYes : Bool
  costUsd : ℚ
  proceedsUsd : Option ℚ
  pnlUsd : Option ℚ

/-- The payload of an execution event, and whose it is. -/
structure PredictEvent where
  userId : String
  action : Action
  txSignature : String
  marketId : Option String
  isYes : Option Bool
  amountUsd : Option ℚ
  orderPubkey : Option String
  positionPubkey : Option String
  slippageBps : Option ℕ
  logMeta : Option LogMeta
  proceedsUsd : Option ℚ

structure PoolEntry where
  url : String
  latencyMs : ℕ

/-- A signed transaction. The signature is that of its bytes, so that sending it again sends the
same one. -/
structure SignedTransaction where
  signature : String
  recentBlockhash : String

/-- What a signature's status says of its transaction. -/
inductive SignatureStatus where
  | pending
  | confirmed
  | failed (reason : String)
deriving DecidableEq

/-- The signatures of the transactions that land, and the events that are recorded. -/
structure Desk where
  landed : List String
  events : List PredictEvent

namespace Desk

/-- A transaction lands. It does so once. -/
def land (signature : String) (desk : Desk) : Desk :=
  if signature ∈ desk.landed then desk
  else { desk with landed := desk.landed ++ [signature] }

def record (event : PredictEvent) (desk : Desk) : Desk :=
  { desk with events := desk.events ++ [event] }

end Desk

/-! ### Operations -/

inductive Op where
  | ensureSolanaPersonalWallet
  | getSolanaKeypair
  | getSolanaTokenBalance
  | fetchPositions (ownerPubkey : String)
  | fetchTransaction (request : TxRequest)
  | pool
  | sendRawTransaction (url : String) (skipPreflight : Bool) (signature : String)
  | confirmTransaction (url signature blockhash : String) (lastValidBlockHeight : ℕ)
  | elapsed
  | getSignatureStatus (url signature : String)
  | createEvent (event : PredictEvent)

/-- The key pair is known by its public key, and a confirmation tells the error of the transaction,
if it has failed. -/
@[reducible] def Result : Op → Type
  | .getSolanaKeypair => String
  | .getSolanaTokenBalance => ℚ
  | .fetchPositions _ => Except Refusal (List Position)
  | .fetchTransaction _ => Except Refusal PredictionTxResponse
  | .pool => List PoolEntry
  | .sendRawTransaction _ _ _ => String
  | .confirmTransaction _ _ _ _ => Option String
  | .elapsed => ℕ
  | .getSignatureStatus _ _ => SignatureStatus
  | _ => Unit

/-- How an attempt to send ends, and whether what is sent lands. When the endpoint runs out of time,
whether what it is still busy with lands the transaction. -/
inductive Sending where
  | answered (lands : Bool)
  | refused (message : String)
  | lost (lands : Bool) (message : String)
  | late (lands : Bool)

def Sending.lands : Sending → Bool
  | answered lands => lands
  | refused _ => false
  | lost lands _ => lands
  | late lands => lands

/-- How a wait for a confirmation ends. One that is answered tells what has become of the
transaction; a status may show it only later. -/
inductive Waiting where
  | answered
  | unseen
  | failed (message : String)
  | late

@[reducible] def Fate : Op → Type
  | .sendRawTransaction _ _ _ => Sending
  | .confirmTransaction _ _ _ _ => Waiting
  | .getSignatureStatus _ _ => Waiting
  | .createEvent _ => Delivery
  | .pool => List PoolEntry
  | .elapsed => ℕ
  | op => Except String (Result op)

def sent (url signature : String) : Sending → Except Failure String
  | .answered _ => .ok signature
  | .refused message => .error (.error message)
  | .lost _ message => .error (.error message)
  | .late _ => .error (.timeout url)

def confirmation (url : String) (lands : Bool) : Waiting → Except Failure (Option String)
  | .answered => .ok (if lands then none else some "InstructionError")
  | .unseen => .error (.error "block height exceeded")
  | .failed message => .error (.error message)
  | .late => .error (.timeout url)

/-- The answer to a query of the status. -/
def statusOf (url : String) (lands : Bool) : Waiting → Except Failure SignatureStatus
  | .answered => .ok (if lands then .confirmed else .failed "InstructionError")
  | .unseen => .ok .pending
  | .failed message => .error (.error message)
  | .late => .error (.timeout url)

def perform : (op : Op) → Fate op → Desk → Desk × Except Failure (Result op)
  | .sendRawTransaction url _ signature, sending, desk =>
    (if sending.lands then desk.land signature else desk, sent url signature sending)
  | .confirmTransaction url signature _ _, waiting, desk =>
    (desk, confirmation url (signature ∈ desk.landed) waiting)
  | .getSignatureStatus url signature, waiting, desk =>
    (desk, statusOf url (signature ∈ desk.landed) waiting)
  | .createEvent event, delivery, desk =>
    let written := delivery.write desk (desk.record event) ()
    (written.1, written.2.mapError .error)
  | .pool, entries, desk => (desk, .ok entries)
  | .elapsed, time, desk => (desk, .ok time)
  | .ensureSolanaPersonalWallet, answer, desk => (desk, answer.mapError .error)
  | .getSolanaKeypair, answer, desk => (desk, answer.mapError .error)
  | .getSolanaTokenBalance, answer, desk => (desk, answer.mapError .error)
  | .fetchPositions _, answer, desk => (desk, answer.mapError .error)
  | .fetchTransaction _, answer, desk => (desk, answer.mapError .error)

/-- The prediction API, the chain and the events. -/
@[reducible] def venue : Service where
  State := Desk
  Op := Op
  Result := Result
  Failure := Failure
  Fate := Fate
  perform := perform

abbrev Call (Value : Type) : Type := Program venue Value

def await (op : Op) : Call (Result op) := @Program.perform venue op

/-- `throw new Error(message)`. -/
def refuse {Value : Type} (message : String) : Call Value := failed (.error message)

/-! ### The pool of endpoints -/

/-- What the services are configured with, and how a transaction of the API is read and signed. -/
structure Settings where
  isSolanaWalletEnabled : Bool
  isJupiterConfigured : Bool
  solanaRpcUrl : Option String
  signTransaction : (ownerPubkey transaction : String) → Except String SignedTransaction

def rateLimitBackoffMs : List ℕ := [400, 1200]

def isMainnetBeta (entry : PoolEntry) : Prop := "mainnet-beta".toList <:+: entry.url.toList

instance (entry : PoolEntry) : Decidable (isMainnetBeta entry) :=
  inferInstanceAs (Decidable (_ <:+: _))

/-- Whether the first entry may come before the second. -/
def ranksFirst (primary : Option String) (a b : PoolEntry) : Bool :=
  if primary = some a.url ∧ primary ≠ some b.url then true
  else if primary = some b.url ∧ primary ≠ some a.url then false
  else if isMainnetBeta a ∧ ¬ isMainnetBeta b then true
  else if isMainnetBeta b ∧ ¬ isMainnetBeta a then false
  else a.latencyMs ≤ b.latencyMs

/-- One endpoint: the whole callback, again after each pause while it is rate limited and there is
no other. -/
def withEndpoint {Value : Type} (fn : String → Call Value) (url : String) (isLast : Bool) :
    List ℕ → Call Value
  | [] => fn url
  | _ :: backoffs => recover (fn url) fun failure =>
    if isRateLimited failure ∧ isLast then withEndpoint fn url isLast backoffs
    else failed failure

/-- The endpoints one after another, until one has done it. -/
def withEndpoints {Value : Type} (fn : String → Call Value) (last : Option PoolEntry) :
    List PoolEntry → Failure → Call Value
  | [], lastErr => failed lastErr
  | entry :: rest, _ =>
    recover (withEndpoint fn entry.url (last.map PoolEntry.url = some entry.url)
      rateLimitBackoffMs) fun failure => withEndpoints fn last rest failure

def withSolanaRpc {Value : Type} (settings : Settings) (fn : String → Call Value) :
    Call Value := do
  let pool ← await .pool
  let ordered := pool.mergeSort (ranksFirst settings.solanaRpcUrl)
  withEndpoints fn ordered.getLast? ordered (.error "undefined")

/-! ### Sending -/

def confirmTimeoutMs : ℕ := 90000

/-- The pause between two queries of the status. -/
def pollPauseMs : ℕ := 1500

def notConfirmed {Value : Type} (signature : String) : Call Value :=
  refuse ("Transaction submitted but not confirmed within " ++ toString (confirmTimeoutMs / 1000) ++
    "s. Check https://solscan.io/tx/" ++ signature ++
    " — if it succeeded, refresh your positions.")

/-- The status is queried until it tells, for as long as there is time for a number of pauses. -/
def pollStatus (url signature : String) : ℕ → Call Unit
  | 0 => notConfirmed signature
  | pauses + 1 => do
    let time ← await .elapsed
    if time ≥ confirmTimeoutMs then notConfirmed signature
    else do
      let status ← await (.getSignatureStatus url signature)
      match status with
      | .failed reason => refuse ("Transaction failed on-chain: " ++ reason)
      | .confirmed => pure ()
      | .pending => pollStatus url signature pauses

def confirm (url signature blockhash : String) (lastValidBlockHeight : ℕ) : Call Unit := do
  let err ← await (.confirmTransaction url signature blockhash lastValidBlockHeight)
  match err with
  | some reason => refuse ("Transaction failed on-chain: " ++ reason)
  | none => pure ()

def waitForSignatureConfirmation (url signature : String) (txMeta : Option PredictionTxMeta)
    (blockhashFromTx : String) : Call Unit :=
  let blockhash := (txMeta.bind PredictionTxMeta.blockhash).getD blockhashFromTx
  match txMeta.bind PredictionTxMeta.lastValidBlockHeight with
  | some height =>
    if blockhash ≠ "" then confirm url signature blockhash height
    else pollStatus url signature (confirmTimeoutMs / pollPauseMs)
  | none => pollStatus url signature (confirmTimeoutMs / pollPauseMs)

/-- A preflight that fails is skipped. A timeout is no error of the preflight. -/
def sendTwice (url signature : String) : Call String :=
  recover (await (.sendRawTransaction url false signature)) fun failure =>
    match failure with
    | .error _ => await (.sendRawTransaction url true signature)
    | .timeout url => failed (.timeout url)

def minSolForPredictTx : ℚ := 5 / 1000

def ensureSolForPredictTx : Call Unit := do
  let sol ← await .getSolanaTokenBalance
  if sol ≥ minSolForPredictTx then pure ()
  else refuse ("Solana wallet needs ~0.005 SOL for network fees (have " ++ (toFixed 4 sol).render ++
    " SOL). Deposit a little SOL to your Godslandx Solana wallet and retry.")

/-- What an endpoint is given to do. -/
def sendAndConfirm (signed : SignedTransaction) (txMeta : Option PredictionTxMeta) (url : String) :
    Call String := do
  let signature ← sendTwice url signed.signature
  waitForSignatureConfirmation url signature txMeta signed.recentBlockhash
  pure signature

def signAndSend (settings : Settings) (transaction : String) (txMeta : Option PredictionTxMeta) :
    Call String := do
  ensureSolForPredictTx
  let ownerPubkey ← await .getSolanaKeypair
  let signed ← ofExcept ((settings.signTransaction ownerPubkey transaction).mapError .error)
  withSolanaRpc settings (sendAndConfirm signed txMeta)

/-! ### Buys, closes and claims -/

/-- A response that is ok, or the error of the one that is not. -/
def okOrThrow {Value : Type} (response : Except Refusal Value) : Call Value :=
  ofExcept (response.mapError fun refusal => .error (formatPredictionApiError refusal))

def predictionFetch (settings : Settings) (request : TxRequest) : Call PredictionTxResponse :=
  if settings.isJupiterConfigured then do
    let response ← await (.fetchTransaction request)
    okOrThrow response
  else refuse "Jupiter API key not configured on server."

def extractPredictionTransaction (body : PredictionTxResponse) :
    Call (String × Option PredictionTxMeta) :=
  let transaction := (body.transaction.or body.dataTransaction).getD ""
  if transaction = "" then refuse "Prediction API did not return a transaction."
  else pure (transaction, body.txMeta.or body.dataTxMeta)

/-- An event that cannot be stored is left out. -/
def logPredictEvent (event : PredictEvent) : Call Unit :=
  recover (await (.createEvent event)) fun _ => pure ()

inductive Via where
  | claim
  | sellFallback
deriving DecidableEq

/-- What a call returns. -/
structure Placed where
  txSignature : String
  orderPubkey : Option String
  via : Option Via
deriving DecidableEq

def PredictEvent.of (userId : String) (action : Action) (txSignature : String) : PredictEvent :=
  ⟨userId, action, txSignature, none, none, none, none, none, none, none, none⟩

structure BuyInput where
  marketId : String
  isYes : Bool
  amountUsd : ℚ

def assertWalletEnabled (settings : Settings) : Call Unit :=
  if settings.isSolanaWalletEnabled then pure () else refuse "Solana wallet not configured."

def assertAmount (amountUsd : ℚ) : Call Unit :=
  if amountUsd < 1 ∨ amountUsd > 500 then refuse "Amount must be between $1 and $500."
  else pure ()

/-- The wallet is there, and its key. -/
def ownerOf : Call String := do
  await .ensureSolanaPersonalWallet
  await .getSolanaKeypair

def buyJupiterPrediction (settings : Settings) (userId : String) (input : BuyInput) :
    Call Placed := do
  assertWalletEnabled settings
  assertAmount input.amountUsd
  let ownerPubkey ← ownerOf
  let body ← predictionFetch settings
    (.order ownerPubkey input.marketId input.isYes (Numeric.round (input.amountUsd * 1000000)))
  let (transaction, txMeta) ← extractPredictionTransaction body
  let txSignature ← signAndSend settings transaction txMeta
  logPredictEvent
    { PredictEvent.of userId .buy txSignature with
      marketId := input.marketId
      isYes := input.isYes
      amountUsd := input.amountUsd
      orderPubkey := body.orderPubkey }
  pure ⟨txSignature, body.orderPubkey, none⟩

def positionToLogMeta (position : Position) : LogMeta where
  marketId := position.marketId
  positionPubkey := position.pubkey
  title := position.title
  isYes := position.isYes
  costUsd := position.totalCostUsd / 1000000
  proceedsUsd := position.valueUsd.map fun value => value / 1000000
  pnlUsd := position.pnlUsd.map fun pnl => pnl / 1000000

/-- `opts` of a close. -/
structure CloseOptions where
  minSellPriceSlippageBps : Option ℕ
  logMeta : Option LogMeta

def closeSlippageBpsSteps : List ℕ := [2500, 4000, 6000, 8500]

def getJupiterPredictionPositions (settings : Settings) : Call (List Position) := do
  assertWalletEnabled settings
  let ownerPubkey ← ownerOf
  if settings.isJupiterConfigured then do
    let response ← await (.fetchPositions ownerPubkey)
    okOrThrow response
  else refuse "Jupiter API key not configured on server."

/-- What is known of the position that is closed, if it can be had. -/
def snapshot (settings : Settings) (positionPubkey : String) (logMeta : Option LogMeta) :
    Call (Option LogMeta) :=
  match logMeta with
  | some known => pure (some known)
  | none => recover (do
      let positions ← getJupiterPredictionPositions settings
      pure ((positions.find? fun position => position.pubkey = positionPubkey).map
        positionToLogMeta)) fun _ => pure none

/-- One attempt to close, with one slippage. -/
def closeWith (settings : Settings) (userId ownerPubkey positionPubkey : String)
    (logMeta : Option LogMeta) (slippage : ℕ) : Call Placed := do
  let body ← predictionFetch settings (.close ownerPubkey positionPubkey slippage)
  let (transaction, txMeta) ← extractPredictionTransaction body
  let txSignature ← signAndSend settings transaction txMeta
  logPredictEvent
    { PredictEvent.of userId .sell txSignature with
      positionPubkey := (logMeta.map LogMeta.positionPubkey).getD positionPubkey
      slippageBps := slippage
      logMeta := logMeta
      proceedsUsd := logMeta.bind LogMeta.proceedsUsd }
  pure ⟨txSignature, none, none⟩

/-- Wider and wider slippages, while there is no liquidity. -/
def closeSteps (attempt : ℕ → Call Placed) : List ℕ → Failure → Call Placed
  | [], lastErr => failed lastErr
  | slippage :: rest, _ => recover (attempt slippage) fun failure =>
    if isPredictionLiquidityError failure then closeSteps attempt rest failure
    else failed failure

def closeJupiterPredictionPosition (settings : Settings) (userId positionPubkey : String)
    (opts : CloseOptions) : Call Placed := do
  assertWalletEnabled settings
  let ownerPubkey ← ownerOf
  let logMeta ← snapshot settings positionPubkey opts.logMeta
  let slippageSteps := match opts.minSellPriceSlippageBps with
    | some slippage => [slippage]
    | none => closeSlippageBpsSteps
  closeSteps (closeWith settings userId ownerPubkey positionPubkey logMeta) slippageSteps
    (.error ("Could not exit prediction position — Polymarket liquidity is thin. " ++
      "Retry in a few minutes."))

def claim (settings : Settings) (userId ownerPubkey positionPubkey : String) : Call Placed := do
  let body ← predictionFetch settings (.claim ownerPubkey positionPubkey)
  let (transaction, txMeta) ← extractPredictionTransaction body
  let txSignature ← signAndSend settings transaction txMeta
  logPredictEvent
    { PredictEvent.of userId .claim txSignature with positionPubkey := positionPubkey }
  pure ⟨txSignature, none, some .claim⟩

def claimJupiterPredictionPosition (settings : Settings) (userId positionPubkey : String) :
    Call Placed := do
  assertWalletEnabled settings
  let ownerPubkey ← ownerOf
  recover (claim settings userId ownerPubkey positionPubkey) fun failure =>
    if isPredictionLiquidityError failure then do
      let sold ← closeJupiterPredictionPosition settings userId positionPubkey ⟨none, none⟩
      pure ⟨sold.txSignature, none, some .sellFallback⟩
    else failed failure

/-- A call of a user. -/
inductive Request where
  | buy (input : BuyInput)
  | close (positionPubkey : String) (opts : CloseOptions)
  | claim (positionPubkey : String)

def Request.call (settings : Settings) (userId : String) : Request → Call Placed
  | buy input => buyJupiterPrediction settings userId input
  | close positionPubkey opts => closeJupiterPredictionPosition settings userId positionPubkey opts
  | claim positionPubkey => claimJupiterPredictionPosition settings userId positionPubkey

end GdslExchange.JupiterPrediction
