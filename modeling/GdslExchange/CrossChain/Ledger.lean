/-
This file models what the cross-chain transfer services talk to: the table of
transfers, the two chains, the bridge API and the price feeds.

Of the chains only the transactions are kept, each with what it was sent for and
whether it lands; a transaction that will land counts from its submission on.
Balances, prices and quotes are whatever the outside world says they are. Row
ids and transaction hashes are positions.
-/

import GdslExchange.Async.Delivery
import GdslExchange.Async.Program
import GdslExchange.Numeric.Fixed

namespace GdslExchange.CrossChain

open Async (Delivery Stored)

/-! ### Rows -/

/-- `CrossChainDirection`. -/
inductive Direction where
  | bscToSol
  | solToBsc
deriving DecidableEq

/-- `CrossChainTransferStatus`. -/
inductive TransferStatus where
  | pending
  | debited
  | completed
  | creditPending
  | failed
deriving DecidableEq

namespace TransferStatus

def word : TransferStatus → String
  | pending => "PENDING"
  | debited => "DEBITED"
  | completed => "COMPLETED"
  | creditPending => "CREDIT_PENDING"
  | failed => "FAILED"

end TransferStatus

/-- A transaction of the platform, or one the bridge reports from the other side. -/
inductive TxRef where
  | sent (hash : ℕ)
  | reported (hash : String)

/-- `CrossChainTransfer`. -/
structure Transfer where
  userId : String
  direction : Direction
  asset : String
  destAsset : Option String
  amount : ℚ
  feeUsd : ℚ
  creditAmount : ℚ
  status : TransferStatus
  debitTxRef : Option TxRef
  creditTxRef : Option TxRef
  errorMessage : Option String
  requestedAt : ℕ

/-- The `data` of a transfer update. -/
structure TransferPatch where
  status : TransferStatus
  debitTxRef : Option TxRef := none
  creditTxRef : Option TxRef := none
  errorMessage : Option (Option String) := none

def TransferPatch.apply (patch : TransferPatch) (row : Transfer) : Transfer :=
  { row with
    status := patch.status
    debitTxRef := patch.debitTxRef.or row.debitTxRef
    creditTxRef := patch.creditTxRef.or row.creditTxRef
    errorMessage := patch.errorMessage.getD row.errorMessage }

/-! ### Transactions -/

inductive Chain where
  | bsc
  | sol
deriving DecidableEq

namespace Chain

def word : Chain → String
  | bsc => "BSC"
  | sol => "SOL"

end Chain

/-- What a transaction is sent for. The chains do not see this. -/
inductive Purpose where
  | debit (record : ℕ)
  | credit (record : ℕ)
  | fee (record : ℕ)
  | gas
  | approval
deriving DecidableEq

/-- What a transaction does, in base units. -/
inductive Action where
  | pay (recipient : String) (amount : ℤ)
  | payToken (token recipient : String) (amount : ℤ)
  | payTokenToNewAccount (token recipient : String) (amount : ℤ)
  | unwrap (amount : ℤ)
  | approve (token spender : String) (amount : ℤ)
  | bridge (contract data : String) (value : ℤ)

structure Transaction where
  chain : Chain
  signer : String
  action : Action
  purpose : Purpose

/-- A submitted transaction. -/
structure Submitted where
  transaction : Transaction
  landed : Bool

/-- The table and the chains. -/
structure Ledger where
  transfers : List Transfer
  submitted : List Submitted

def Ledger.landedFor (ledger : Ledger) (purpose : Purpose) : List Submitted :=
  ledger.submitted.filter fun sent => sent.landed ∧ sent.transaction.purpose = purpose

def Ledger.landed (ledger : Ledger) (hash : ℕ) : Bool :=
  (ledger.submitted[hash]?.map Submitted.landed).getD false

def Ledger.submit (ledger : Ledger) (transaction : Transaction) (landed : Bool) : Ledger :=
  { ledger with submitted := ledger.submitted ++ [⟨transaction, landed⟩] }

/-! ### Operations -/

/-- A balance of the personal BSC wallet. -/
structure AssetBalance where
  asset : String
  amount : ℚ
  usdPrice : Option ℚ
  usdValue : ℚ

structure SolanaHolding where
  mint : String
  amount : ℚ

/-- The parameters of a LI.FI quote. -/
structure QuoteRequest where
  fromChain : Chain
  toChain : Chain
  fromToken : String
  toToken : String
  fromAmount : ℤ
  fromAddress : String
  toAddress : String

structure TransactionRequest where
  contract : Option String
  data : Option String
  value : ℤ

structure LiFiQuote where
  tool : Option String
  transactionRequest : Option TransactionRequest
  approvalAddress : Option String
  fromToken : Option String
  spendAmount : Option ℤ

inductive BridgeStatus where
  | finished (destTxHash : Option String)
  | broken
  | underway

/-- The two status checks of a credit: that of `retryCrossChainCredit` and that of
`executeCrossChainCreditLeg`. -/
inductive Check where
  | retry
  | creditLeg
deriving DecidableEq

inductive Op where
  | ensureSolanaPersonalWallet (userId : String)
  | getPersonalWalletSummary (userId : String)
  | listSolanaHoldings (userId : String)
  | fetchJupiterPrice (mint : String)
  | fetchLegUsdPrice (binanceSymbol : String)
  | getPersonalSigner (userId : String)
  | getSolanaKeypair (userId : String)
  | getBalance (chain : Chain) (address : String)
  | getTokenBalance (token owner : String)
  | getMintProgramId (mint : String)
  | getAccount (mint owner : String)
  | createTransfer (row : Transfer)
  | findTransfer (check : Check) (id : ℕ) (userId : String)
  | findPendingCredits (limit : ℕ)
  | updateTransfer (id : ℕ) (patch : TransferPatch)
  | sendTransaction (transaction : Transaction)
  | waitForReceipt (hash : ℕ)
  | sendAndConfirmTransaction (transaction : Transaction)
  | confirmTransaction (hash : ℕ)
  | fetchLiFiQuote (request : QuoteRequest)
  | getAllowance (token owner spender : String)
  | pollsInEightMinutes
  | fetchLiFiStatus (fromChain toChain : Chain) (tool : Option String) (hash : ℕ)

@[reducible] def Result : Op → Type
  | .ensureSolanaPersonalWallet _ => Unit
  | .getPersonalWalletSummary _ => Option (List AssetBalance)
  | .listSolanaHoldings _ => List SolanaHolding
  | .fetchJupiterPrice _ => Option ℚ
  | .fetchLegUsdPrice _ => Option ℚ
  | .getPersonalSigner _ => String
  | .getSolanaKeypair _ => String
  | .getBalance _ _ => ℤ
  | .getTokenBalance _ _ => ℤ
  | .getMintProgramId _ => Unit
  | .getAccount _ _ => ℤ
  | .createTransfer _ => Stored Transfer
  | .findTransfer _ _ _ => Option (Stored Transfer)
  | .findPendingCredits _ => List (Stored Transfer)
  | .updateTransfer _ _ => Stored Transfer
  | .sendTransaction _ => ℕ
  | .waitForReceipt _ => Option Bool
  | .sendAndConfirmTransaction _ => ℕ
  | .confirmTransaction _ => Unit
  | .fetchLiFiQuote _ => LiFiQuote
  | .getAllowance _ _ _ => ℤ
  | .pollsInEightMinutes => ℕ
  | .fetchLiFiStatus _ _ _ _ => BridgeStatus

/-- How a submission ends: the hash is known and the transaction lands or not, it was not
accepted, or it lands although an error was reported. -/
inductive Submission where
  | known (landed : Bool)
  | refused (message : String)
  | lost (message : String)

/-- How waiting for a receipt ends. -/
inductive Receipt where
  | arrived
  | missing
  | failed (message : String)

/-- The creation of a row, with its time. -/
structure Creation where
  delivery : Delivery
  time : ℕ

/-- A query ordered by time, with the order of the rows of equal time. -/
structure Listing where
  delivery : Delivery
  rank : ℕ → ℕ

@[reducible] def Fate : Op → Type
  | .fetchJupiterPrice _ => Option ℚ
  | .fetchLegUsdPrice _ => Option ℚ
  | .createTransfer _ => Creation
  | .findTransfer _ _ _ => Delivery
  | .findPendingCredits _ => Listing
  | .updateTransfer _ _ => Delivery
  | .sendTransaction _ => Submission
  | .waitForReceipt _ => Receipt
  | .sendAndConfirmTransaction _ => Delivery
  | .pollsInEightMinutes => ℕ
  | op => Except String (Result op)

/-- The symbols whose price is pinned to one dollar. -/
def pinnedSymbols : List String := ["USDCUSDT", "USDTUSDT", "USDCUSDC", "USDTUSDC"]

def Transfer.awaitsRetry (row : Transfer) : Bool := row.status = .creditPending

/-- What the sweep of pending credits selects, in its order. -/
def pendingCredits (transfers : List Transfer) (rank : ℕ → ℕ) : List (Stored Transfer) :=
  ((transfers.mapIdx fun id row => (⟨id, row⟩ : Stored Transfer)).filter fun stored =>
    stored.row.awaitsRetry).mergeSort fun first second =>
      first.row.requestedAt < second.row.requestedAt ∨
        first.row.requestedAt = second.row.requestedAt ∧ rank first.id ≤ rank second.id

def perform : (op : Op) → Fate op → Ledger → Ledger × Except String (Result op)
  | .fetchJupiterPrice _, price, ledger => (ledger, .ok price)
  | .fetchLegUsdPrice binanceSymbol, price, ledger =>
    (ledger, .ok (if binanceSymbol ∈ pinnedSymbols then some 1
      else price.filter fun value => value > 0))
  | .createTransfer row, creation, ledger =>
    let stamped := { row with requestedAt := creation.time }
    creation.delivery.write ledger { ledger with transfers := ledger.transfers ++ [stamped] }
      ⟨ledger.transfers.length, stamped⟩
  | .findTransfer _ id userId, delivery, ledger =>
    delivery.read ledger ((ledger.transfers[id]?.filter fun row => row.userId = userId).map
      fun row => ⟨id, row⟩)
  | .findPendingCredits limit, listing, ledger =>
    listing.delivery.read ledger ((pendingCredits ledger.transfers listing.rank).take limit)
  | .updateTransfer id patch, delivery, ledger =>
    match ledger.transfers[id]? with
    | none => (ledger, .error "Record to update not found.")
    | some row =>
      delivery.write ledger { ledger with transfers := ledger.transfers.set id (patch.apply row) }
        ⟨id, patch.apply row⟩
  | .sendTransaction transaction, submission, ledger =>
    match submission with
    | .known landed => (ledger.submit transaction landed, .ok ledger.submitted.length)
    | .refused message => (ledger, .error message)
    | .lost message => (ledger.submit transaction true, .error message)
  | .waitForReceipt hash, receipt, ledger =>
    match receipt with
    | .arrived => (ledger, .ok (some (ledger.landed hash)))
    | .missing => (ledger, .ok none)
    | .failed message => (ledger, .error message)
  | .sendAndConfirmTransaction transaction, delivery, ledger =>
    delivery.write ledger (ledger.submit transaction true) ledger.submitted.length
  | .pollsInEightMinutes, polls, ledger => (ledger, .ok polls)
  | .ensureSolanaPersonalWallet _, answer, ledger => (ledger, answer)
  | .getPersonalWalletSummary _, answer, ledger => (ledger, answer)
  | .listSolanaHoldings _, answer, ledger => (ledger, answer)
  | .getPersonalSigner _, answer, ledger => (ledger, answer)
  | .getSolanaKeypair _, answer, ledger => (ledger, answer)
  | .getBalance _ _, answer, ledger => (ledger, answer)
  | .getTokenBalance _ _, answer, ledger => (ledger, answer)
  | .getMintProgramId _, answer, ledger => (ledger, answer)
  | .getAccount _ _, answer, ledger => (ledger, answer)
  | .confirmTransaction _, answer, ledger => (ledger, answer)
  | .fetchLiFiQuote _, answer, ledger => (ledger, answer)
  | .getAllowance _ _ _, answer, ledger => (ledger, answer)
  | .fetchLiFiStatus _ _ _ _, answer, ledger => (ledger, answer)

/-- The outside world of the cross-chain services. -/
abbrev chains : Async.Service where
  State := Ledger
  Op := Op
  Result := Result
  Failure := String
  Fate := Fate
  perform := perform

abbrev Call (Value : Type) := Async.Program chains Value

def await (op : Op) : Call (Result op) := @Async.Program.perform chains op

/-! ### Updates -/

section Updates

variable {ledger : Ledger} {id : ℕ} {row : Transfer}
  (found : ledger.transfers[id]? = some row) (patch : TransferPatch) (delivery : Delivery)
include found

theorem reply_perform_update :
    (perform (.updateTransfer id patch) delivery ledger).2 =
      delivery.reply ⟨id, patch.apply row⟩ := by
  simp only [perform, found]
  rfl

theorem row_perform_update :
    (perform (.updateTransfer id patch) delivery ledger).1.transfers[id]? =
      some (if delivery.Applies then patch.apply row else row) := by
  have bound : id < ledger.transfers.length := (List.getElem?_eq_some_iff.mp found).1
  simp only [perform, found, Delivery.write]
  split
  · exact List.getElem?_set_self bound
  · exact found

end Updates

end GdslExchange.CrossChain
