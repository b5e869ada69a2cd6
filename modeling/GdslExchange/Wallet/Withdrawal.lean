/-
This file models the withdrawals of the two personal wallets of a user, BSC and
Solana: the checks, the row of the request, the transfer, and what is written on
the row when the transfer is confirmed or an error is caught.

A transfer can leave the wallet although the call that sent it is answered with
an error, so the transfers that left are a part of the state. A receipt tells
the truth about them. The times on the rows are left out.
-/

import GdslExchange.Spot.PersonalWallet

namespace GdslExchange.Wallet

open Async (Delivery Stored)
open Async.Program
open Numeric
open Spot (findToken formatUnits parseAmount fromUnits)

/-! ### Rows -/

/-- `PersonalWalletWithdrawalStatus`. -/
inductive WithdrawalStatus where
  | pending
  | processing
  | completed
  | failed
deriving DecidableEq

/-- `PersonalWalletWithdrawal` and `SolanaPersonalWalletWithdrawal`: the reference is `txHash` in
the one and `txSignature` in the other. -/
structure Withdrawal where
  toAddress : String
  asset : String
  amount : ℚ
  reference : Option String
  status : WithdrawalStatus
  feeUsd : ℚ
  errorMessage : Option String

/-- The `data` of an update: the columns it sets. -/
structure WithdrawalPatch where
  reference : Option String := none
  status : Option WithdrawalStatus := none
  feeUsd : Option ℚ := none
  errorMessage : Option (Option String) := none

def WithdrawalPatch.apply (patch : WithdrawalPatch) (row : Withdrawal) : Withdrawal :=
  { row with
    reference := patch.reference.or row.reference
    status := patch.status.getD row.status
    feeUsd := patch.feeUsd.getD row.feeUsd
    errorMessage := patch.errorMessage.getD row.errorMessage }

/-- The rows, and the references of the transfers that left the wallet. -/
structure Vault where
  withdrawals : List Withdrawal
  transfers : List String

/-! ### Operations -/

/-- A transfer to be signed: raw units of an asset. -/
structure Transfer where
  asset : String
  toAddress : String
  raw : ℕ

structure Receipt where
  status : ℕ
  gasWei : ℕ

/-- What becomes of a signed transfer: it leaves the wallet, it is accepted and takes no effect,
it is not sent at all, or it leaves the wallet and an error is reported. -/
inductive Sending where
  | landed (hash : String)
  | stranded (hash : String)
  | refused (message : String)
  | lost (hash message : String)

/-- How the wait for a receipt ends. -/
inductive Wait where
  | mined (gasWei : ℕ)
  | missing
  | failed (message : String)

inductive Op where
  | findWallet
  | loadSigner
  | balanceOf (asset : String)
  | createWithdrawal (row : Withdrawal)
  | updateWithdrawal (id : ℕ) (patch : WithdrawalPatch)
  | sendTransaction (transfer : Transfer)
  | waitForReceipt (hash : String)
  | fetchBinancePrice (symbol : String)
  | getTokenAccount (owner : String)
  | sendAndConfirmTransaction (transfer : Transfer)

@[reducible] def Result : Op → Type
  | .findWallet => Option Bool
  | .loadSigner => String
  | .balanceOf _ => ℕ
  | .createWithdrawal _ => ℕ
  | .updateWithdrawal _ _ => Unit
  | .sendTransaction _ => String
  | .waitForReceipt _ => Option Receipt
  | .fetchBinancePrice _ => Option ℚ
  | .getTokenAccount _ => ℕ
  | .sendAndConfirmTransaction _ => String

@[reducible] def Fate : Op → Type
  | .createWithdrawal _ => Delivery
  | .updateWithdrawal _ _ => Delivery
  | .sendTransaction _ => Sending
  | .waitForReceipt _ => Wait
  | .sendAndConfirmTransaction _ => Sending
  | op => Except String (Result op)

def Vault.write (vault : Vault) (withdrawals : List Withdrawal) : Vault :=
  { vault with withdrawals := withdrawals }

def Vault.move (vault : Vault) (hash : String) : Vault :=
  { vault with transfers := vault.transfers ++ [hash] }

def perform : (op : Op) → Fate op → Vault → Vault × Except String (Result op)
  | .findWallet, answer, vault => (vault, answer)
  | .loadSigner, answer, vault => (vault, answer)
  | .balanceOf _, answer, vault => (vault, answer)
  | .createWithdrawal row, delivery, vault =>
    delivery.write vault (vault.write (vault.withdrawals ++ [row])) vault.withdrawals.length
  | .updateWithdrawal id patch, delivery, vault =>
    match vault.withdrawals[id]? with
    | none => (vault, .error "Record to update not found.")
    | some row => delivery.write vault (vault.write (vault.withdrawals.set id (patch.apply row))) ()
  | .sendTransaction _, sending, vault =>
    match sending with
    | .landed hash => (vault.move hash, .ok hash)
    | .stranded hash => (vault, .ok hash)
    | .refused message => (vault, .error message)
    | .lost hash message => (vault.move hash, .error message)
  | .waitForReceipt hash, wait, vault =>
    (vault, match wait with
      | .mined gasWei => .ok (some ⟨if hash ∈ vault.transfers then 1 else 0, gasWei⟩)
      | .missing => .ok none
      | .failed message => .error message)
  | .fetchBinancePrice _, answer, vault => (vault, answer)
  | .getTokenAccount _, answer, vault => (vault, answer)
  | .sendAndConfirmTransaction _, sending, vault =>
    match sending with
    | .landed hash => (vault.move hash, .ok hash)
    | .stranded hash => (vault, .error ("Transaction " ++ hash ++ " failed"))
    | .refused message => (vault, .error message)
    | .lost hash message => (vault.move hash, .error message)

/-- The outside world of a withdrawal. -/
abbrev chains : Async.Service where
  State := Vault
  Op := Op
  Result := Result
  Failure := String
  Fate := Fate
  perform := perform

abbrev Call (Value : Type) := Async.Program chains Value

def await (op : Op) : Call (Result op) := @Async.Program.perform chains op

/-! ### The request -/

structure WithdrawRequest where
  asset : String
  amount : ℚ
  toAddress : String

/-- What the deployment brings: whether wallet keys are configured, and the parsers of
addresses. -/
structure Setup where
  configured : Bool
  parseEvmWithdrawAddress : String → Except String String
  parseSolanaAddress : String → Except String String

/-- A request that passed its checks. -/
structure Checked where
  toAddress : String
  amount : ℚ
  owner : String
  transfer : Transfer

def Checked.row (checked : Checked) : Withdrawal where
  toAddress := checked.toAddress
  asset := checked.transfer.asset
  amount := checked.amount
  reference := none
  status := .processing
  feeUsd := 0
  errorMessage := none

/-- A request on record. -/
structure Prepared extends Checked where
  id : ℕ

/-- The row is there before anything is sent. -/
def recordRequest (checked : Checked) : Call Prepared := do
  let id ← await (.createWithdrawal checked.row)
  pure ⟨checked, id⟩

/-- The update of a `catch` block. -/
def failedPatch (message : String) : WithdrawalPatch where
  status := some .failed
  errorMessage := some (some message)

/-! ### BSC -/

def checkPersonal (setup : Setup) (request : WithdrawRequest) : Call Checked := do
  let toAddress ← ofExcept (setup.parseEvmWithdrawAddress request.toAddress)
  throwIf (request.amount ≤ 0) "Amount must be positive"
  let token ← orThrow (findToken request.asset.toUpper) ("Unsupported asset " ++ request.asset)
  let wallet? ← await .findWallet
  let enabled ← orThrow wallet? "Personal wallet not found"
  throwIf (enabled = false) "Personal wallet is disabled"
  let owner ← await .loadSigner
  let onchainBalance ← await (.balanceOf token.symbol)
  let requiredRaw ← ofExcept (parseAmount request.amount token.decimals)
  throwIf (onchainBalance < requiredRaw) ("Insufficient " ++ token.symbol ++
    " balance — available " ++ formatUnits onchainBalance token.decimals ++ ", requested " ++
    text request.amount)
  pure ⟨toAddress.toLower, request.amount, owner, ⟨token.symbol, toAddress, requiredRaw⟩⟩

def preparePersonal (setup : Setup) (request : WithdrawRequest) : Call Prepared := do
  let checked ← checkPersonal setup request
  recordRequest checked

/-- The transfer is sent and its hash written on the row. -/
def transferPersonal (prepared : Prepared) : Call String := do
  let hash ← await (.sendTransaction prepared.transfer)
  await (.updateWithdrawal prepared.id { reference := some hash })
  pure hash

def broadcastPersonal (prepared : Prepared) : Call String :=
  recover (transferPersonal prepared) fun message => do
    await (.updateWithdrawal prepared.id (failedPatch message))
    failed message

def estimateFeeUsd (receipt? : Option Receipt) : Call ℚ :=
  match receipt? with
  | none => pure 0
  | some receipt =>
    recover (do
      let bnbUsd ← await (.fetchBinancePrice "BNBUSDT")
      pure (fromUnits receipt.gasWei 18 * bnbUsd.getD 0))
      fun _ => pure 0

def receiptPatch (receipt? : Option Receipt) (feeUsd : ℚ) : WithdrawalPatch :=
  let ok := receipt?.any fun receipt => receipt.status = 1
  { status := some (if ok then .completed else .failed)
    feeUsd := some feeUsd
    errorMessage := some (if ok then none else some "Transaction reverted") }

/-- The receipt is waited for and written on the row. -/
def recordReceipt (id : ℕ) (hash : String) : Call Unit := do
  let receipt? ← await (.waitForReceipt hash)
  let feeUsd ← estimateFeeUsd receipt?
  await (.updateWithdrawal id (receiptPatch receipt? feeUsd))

/-- What happens in the background once the call has returned. -/
def confirmPersonal (id : ℕ) (hash : String) : Call Unit :=
  recover (recordReceipt id hash) fun message =>
    await (.updateWithdrawal id (failedPatch message))

def settlePersonal (prepared : Prepared) : Call Unit := do
  let hash ← broadcastPersonal prepared
  confirmPersonal prepared.id hash

/-- `withdrawFromPersonalWallet`, with what it leaves to the background. -/
def withdrawFromPersonalWallet (setup : Setup) (request : WithdrawRequest) : Call Unit := do
  let prepared ← preparePersonal setup request
  settlePersonal prepared

/-! ### Solana -/

def solanaGasReserveSol : ℚ := 3 / 1000

/-- The balance in SOL covers the transfer and the fees. -/
def checkSol (asset : String) (amount solBalance : ℚ) : Call Unit :=
  if asset = "SOL" then
    throwIf (amount > solBalance - solanaGasReserveSol) ("Insufficient SOL — available " ++
      (toFixed 6 (max 0 (solBalance - solanaGasReserveSol))).render ++
      " after gas reserve, requested " ++ text amount)
  else throwIf (solBalance < solanaGasReserveSol)
    ("Need a little SOL for network fees — wallet has " ++ (toFixed 6 solBalance).render ++
      " SOL. Deposit ~0.01 SOL first.")

def checkSolana (setup : Setup) (request : WithdrawRequest) : Call Checked := do
  throwIf (setup.configured = false)
    "Solana wallet is not configured (WALLET_ENCRYPTION_KEY missing)."
  let asset := request.asset.toUpper
  throwIf (asset ∉ ["USDC", "SOL"])
    ("Unsupported asset " ++ request.asset ++ ". Withdraw USDC or SOL.")
  throwIf (request.amount ≤ 0) "Amount must be positive"
  let dest ← ofExcept (setup.parseSolanaAddress request.toAddress)
  let wallet? ← await .findWallet
  let enabled ← orThrow wallet? "Solana personal wallet not found"
  throwIf (enabled = false) "Solana personal wallet is disabled"
  let owner ← await .loadSigner
  throwIf (owner = dest) "Destination is your own wallet — pick an external address"
  let lamports ← await (.balanceOf "SOL")
  checkSol asset request.amount (fromUnits lamports 9)
  let decimals := if asset = "SOL" then 9 else 6
  pure ⟨dest, request.amount, owner, ⟨asset, dest, ⌊request.amount * 10 ^ decimals⌋.toNat⟩⟩

def prepareSolana (setup : Setup) (request : WithdrawRequest) : Call Prepared := do
  let checked ← checkSolana setup request
  recordRequest checked

/-- The checks of the token accounts, before a transfer of USDC is signed. -/
def checkTokenAccounts (prepared : Prepared) : Call Unit :=
  if prepared.transfer.asset = "SOL" then pure ()
  else do
    let sourceAmount ← recover (await (.getTokenAccount prepared.owner))
      fun _ => failed "No USDC balance in this wallet"
    throwIf (sourceAmount < prepared.transfer.raw) ("Insufficient USDC — available " ++
      (toFixed 2 (fromUnits sourceAmount 6)).render ++ ", requested " ++ text prepared.amount)
    -- A recipient without an account gets one with the transfer.
    let _ ← recover (await (.getTokenAccount prepared.transfer.toAddress)) fun _ => pure 0

/-- The update of the `catch` block, with the first 500 characters of the message. -/
def slicedPatch (message : String) : WithdrawalPatch :=
  failedPatch (String.ofList (message.toList.take 500))

/-- The update when the transfer is confirmed. -/
def confirmedPatch (signature : String) : WithdrawalPatch where
  reference := some signature
  status := some .completed

/-- The transfer is sent, confirmed, and written on the row. -/
def transferSolana (prepared : Prepared) : Call Unit := do
  checkTokenAccounts prepared
  let signature ← await (.sendAndConfirmTransaction prepared.transfer)
  await (.updateWithdrawal prepared.id (confirmedPatch signature))

def settleSolana (prepared : Prepared) : Call Unit :=
  recover (transferSolana prepared) fun message => do
    await (.updateWithdrawal prepared.id (slicedPatch message))
    failed message

def withdrawFromSolanaWallet (setup : Setup) (request : WithdrawRequest) : Call Unit := do
  let prepared ← prepareSolana setup request
  settleSolana prepared

end GdslExchange.Wallet
