/-
This file separates the awaits of a transfer that matter to its record (the
database calls, the debit and the credit) from its errands: reading balances,
prices and quotes, and paying for gas, approvals and fees.
-/

import GdslExchange.Async.Protocol
import GdslExchange.CrossChain.Transfer

namespace GdslExchange.CrossChain

open Async Async.Program
open Protocol (Follows ends)

/-- A payment that is neither a debit nor a credit. -/
def Purpose.Incidental : Purpose → Prop
  | debit _ => False
  | credit _ => False
  | _ => True

/-- An operation that touches no record and pays no debit and no credit. -/
def Errand : Op → Prop
  | .createTransfer _ => False
  | .findTransfer _ _ _ => False
  | .findPendingCredits _ => False
  | .updateTransfer _ _ => False
  | .sendTransaction transaction => transaction.purpose.Incidental
  | .sendAndConfirmTransaction transaction => transaction.purpose.Incidental
  | _ => True

/-! ### Programs of errands -/

theorem errand_await {op : Op} (errand : Errand op) : (await op).Only Errand :=
  only_perform errand

theorem errands_submitOnBsc {transaction : Transaction} (reverted : String)
    (incidental : transaction.purpose.Incidental) :
    (submitOnBsc transaction reverted).Only Errand :=
  only_then incidental fun _ =>
    only_then trivial fun _ => only_bind only_throwIf fun _ => trivial

theorem errands_bscTokenBalance (address : String) (leg : Leg) :
    (bscTokenBalance address leg).Only Errand := by
  unfold bscTokenBalance
  split
  · exact only_then trivial fun _ => trivial
  · exact only_then trivial fun _ => trivial

theorem errands_solTokenBalance (address : String) (leg : Leg) :
    (solTokenBalance address leg).Only Errand := by
  unfold solTokenBalance
  split
  · exact only_then trivial fun _ => trivial
  · refine only_then trivial fun _ => ?_
    exact only_bind (only_recover (errand_await trivial) fun _ => trivial) fun _ => trivial

theorem errands_operatorInventory (route : Route) (opBsc opSol : String) :
    (operatorInventory route opBsc opSol).Only Errand := by
  unfold operatorInventory
  split
  · split
    · exact only_bind (errands_solTokenBalance _ _) fun _ => trivial
    · exact only_bind (errands_bscTokenBalance _ _) fun _ => trivial
  · trivial

theorem errands_ensureNativeBnbForGas (signer : String) (minNative : ℤ) (walletLabel : String) :
    (ensureNativeBnbForGas signer minNative walletLabel).Only Errand := by
  refine only_then trivial fun native => ?_
  split
  · trivial
  · refine only_then trivial fun _ => only_bind only_throwIf fun _ => ?_
    refine only_then trivial fun _ => only_then trivial fun _ => ?_
    exact only_then trivial fun _ => only_throwIf

theorem errands_topUpOperatorBridgeGasFromUser (userBscSigner opBscSigner : String) :
    (topUpOperatorBridgeGasFromUser userBscSigner opBscSigner).Only Errand := by
  refine only_then trivial fun opBal => ?_
  split
  · trivial
  · refine only_bind (errands_ensureNativeBnbForGas _ _ _) fun _ => ?_
    refine only_then trivial fun _ => only_then trivial fun _ => ?_
    exact only_then trivial fun _ => only_throwIf

theorem errands_assertOperatorCanSettleCredit (route : Route) (creditAmount : ℚ)
    (opBsc opSol : String) :
    (assertOperatorCanSettleCredit route creditAmount opBsc opSol).Only Errand := by
  refine only_bind (errands_operatorInventory _ _ _) fun _ => ?_
  split
  · trivial
  · split
    · exact only_then trivial fun _ => only_throwIf
    · exact only_then trivial fun _ => only_throwIf

theorem errands_ensureEvmAllowance (signer : String) (quote : LiFiQuote) (fallbackToken : String)
    (fallbackAmount : ℤ) :
    (ensureEvmAllowance signer quote fallbackToken fallbackAmount).Only Errand := by
  unfold ensureEvmAllowance
  simp only
  split
  · trivial
  · split
    · trivial
    · refine only_then trivial fun _ => ?_
      split
      · trivial
      · refine only_then trivial fun _ => ?_
        exact only_then trivial fun _ => trivial

theorem errands_pollFor (fromChain toChain : Chain) (tool : Option String) (hash polls : ℕ) :
    (pollFor fromChain toChain tool hash polls).Only Errand := by
  induction polls with
  | zero => trivial
  | succ polls inductionHypothesis =>
    refine only_then trivial fun status => ?_
    split
    · trivial
    · trivial
    · exact inductionHypothesis

theorem errands_pollLiFiStatus (tool : Option String) (fromChain toChain : Chain) (hash : ℕ) :
    (pollLiFiStatus tool fromChain toChain hash).Only Errand :=
  only_then trivial fun _ => errands_pollFor _ _ _ _ _

theorem errands_sendBscToken (signer : String) (leg : Leg) (recipient : String) (amount : ℚ)
    {purpose : Purpose} (incidental : purpose.Incidental) :
    (sendBscToken signer leg recipient amount purpose).Only Errand := by
  unfold sendBscToken
  split
  · refine only_bind only_ofExcept fun _ => only_then trivial fun _ => ?_
    refine only_bind only_throwIf fun _ => ?_
    exact only_bind (errands_submitOnBsc _ incidental) fun _ => trivial
  · refine only_bind only_ofExcept fun _ => only_then trivial fun _ => ?_
    refine only_bind only_throwIf fun _ => ?_
    exact only_bind (errands_submitOnBsc _ incidental) fun _ => trivial

theorem errands_sendSolToken (signer : String) (leg : Leg) (recipient : String) (amount : ℚ)
    {purpose : Purpose} (incidental : purpose.Incidental) :
    (sendSolToken signer leg recipient amount purpose).Only Errand := by
  unfold sendSolToken
  split
  · exact only_then incidental fun _ => trivial
  · refine only_then trivial fun _ => ?_
    refine only_bind (only_recover (errand_await trivial) fun _ => trivial) fun _ => ?_
    refine only_bind only_throwIf fun _ => ?_
    refine only_bind (only_recover (only_then trivial fun _ => trivial)
      fun _ => trivial) fun _ => ?_
    exact only_then incidental fun _ => trivial

theorem errands_sweepTransferFeeToTreasury (settings : Settings) (route : Route)
    (feeTokenAmount : ℚ) (wallets : Wallets) (id : ℕ) :
    (sweepTransferFeeToTreasury settings route feeTokenAmount wallets id).Only Errand := by
  unfold sweepTransferFeeToTreasury
  split
  · refine only_recover (only_bind ?_ fun _ => trivial) fun _ => trivial
    cases route.sourceChain with
    | bsc => exact errands_sendBscToken _ _ _ _ trivial
    | sol => exact errands_sendSolToken _ _ _ _ trivial
  · trivial

theorem errands_requireUserFunds (route : Route) (amount : ℚ) (wallets : Wallets) :
    (requireUserFunds route amount wallets).Only Errand := by
  unfold requireUserFunds
  split
  · refine only_bind (errands_ensureNativeBnbForGas _ _ _) fun _ => ?_
    exact only_bind (errands_bscTokenBalance _ _) fun _ => only_throwIf
  · refine only_then trivial fun _ => only_bind only_throwIf fun _ => ?_
    exact only_bind (errands_solTokenBalance _ _) fun _ => only_throwIf

theorem errands_priceSourceToken (userId : String) (route : Route) (sourceAmount : ℚ) :
    (priceSourceToken userId route sourceAmount).Only Errand := by
  refine only_bind ?_ fun price => ?_
  · unfold walletPrice
    split
    · exact only_then trivial fun _ => trivial
    · refine only_then trivial fun _ => only_then trivial fun _ => ?_
      simp only
      split
      · exact only_then trivial fun _ => trivial
      · trivial
  · split
    · trivial
    · exact errand_await trivial

theorem errands_previewCrossChainTransfer (settings : Settings) (userId : String)
    (params : TransferParams) :
    (previewCrossChainTransfer settings userId params).Only Errand := by
  refine only_bind only_throwIf fun _ => only_bind only_ofExcept fun route => ?_
  refine only_bind (errands_priceSourceToken _ _ _) fun _ => only_bind only_orThrow fun _ => ?_
  refine only_bind ?_ fun _ => only_bind only_orThrow fun _ => ?_
  · unfold priceDestToken
    split
    · trivial
    · exact errand_await trivial
  · refine only_bind only_throwIf fun _ => only_bind only_throwIf fun _ => ?_
    exact only_bind only_throwIf fun _ => trivial

theorem errands_planTransfer (settings : Settings) (userId : String) (params : TransferParams) :
    (planTransfer settings userId params).Only Errand := by
  refine only_bind only_throwIf fun _ => only_bind only_throwIf fun _ => ?_
  refine only_then trivial fun _ => only_bind only_ofExcept fun _ => ?_
  refine only_bind (errands_previewCrossChainTransfer _ _ _) fun _ => ?_
  refine only_bind only_throwIf fun _ => only_bind only_orThrow fun _ => ?_
  refine only_then trivial fun _ => only_then trivial fun _ => ?_
  refine only_bind (errands_requireUserFunds _ _ _) fun _ => ?_
  exact only_bind (errands_assertOperatorCanSettleCredit _ _ _ _) fun _ => trivial

/-! ### Payments under a protocol -/

section Payments

variable {Phase Value : Type} {protocol : Protocol chains Phase} {phase : Phase}
  {returns : Value → Phase → Prop} {throws : Phase → Prop}

theorem follows_after_errands {First : Type} {errands : Call First} {rest : First → Call Value}
    (neutral : ∀ op, Errand op → protocol.Neutral phase op) (only : errands.Only Errand)
    (thrown : throws phase)
    (follows : ∀ value, protocol.Follows phase (rest value) (ends returns throws)) :
    protocol.Follows phase (errands >>= rest) (ends returns throws) := by
  have ran : protocol.Follows phase errands
      (ends (fun _ reached => reached = phase) throws) := by
    refine (Follows.neutral (only.mono neutral)).mono fun result reached ended => ?_
    cases result with
    | ok value => exact ended
    | error failure =>
      rw [show reached = phase from ended]
      exact thrown
  refine ran.bind fun value reached same => ?_
  rw [same]
  exact follows value

/-- What a protocol has to say of a phase for a payment to start in it. -/
structure PaysFrom (protocol : Protocol chains Phase) (phase : Phase) (purpose : Purpose)
    (paid throws : Phase → Prop) : Prop where
  errands : ∀ op, Errand op → protocol.Neutral phase op
  thrown : throws phase
  submits : ∀ transaction reverted, transaction.purpose = purpose →
    protocol.Follows phase (submitOnBsc transaction reverted)
      (ends (fun _ => paid) throws)
  confirms : ∀ transaction, transaction.purpose = purpose →
    protocol.Follows phase (await (.sendAndConfirmTransaction transaction))
      (ends (fun _ => paid) throws)

variable {purpose : Purpose} {paid : Phase → Prop}

theorem PaysFrom.sendBscToken (pays : PaysFrom protocol phase purpose paid throws)
    (signer : String) (leg : Leg) (recipient : String) (amount : ℚ) :
    protocol.Follows phase (sendBscToken signer leg recipient amount purpose)
      (ends (fun _ => paid) throws) := by
  unfold CrossChain.sendBscToken
  split
  · refine follows_after_errands pays.errands only_ofExcept pays.thrown fun _ => ?_
    refine follows_after_errands pays.errands (errand_await trivial) pays.thrown fun _ => ?_
    refine follows_after_errands pays.errands only_throwIf pays.thrown fun _ => ?_
    exact Follows.bind (pays.submits _ _ rfl) fun _ _ reached => reached
  · refine follows_after_errands pays.errands only_ofExcept pays.thrown fun _ => ?_
    refine follows_after_errands pays.errands (errand_await trivial) pays.thrown fun _ => ?_
    refine follows_after_errands pays.errands only_throwIf pays.thrown fun _ => ?_
    exact Follows.bind (pays.submits _ _ rfl) fun _ _ reached => reached

theorem PaysFrom.sendSolToken (pays : PaysFrom protocol phase purpose paid throws)
    (signer : String) (leg : Leg) (recipient : String) (amount : ℚ) :
    protocol.Follows phase (sendSolToken signer leg recipient amount purpose)
      (ends (fun _ => paid) throws) := by
  unfold CrossChain.sendSolToken
  split
  · exact Follows.bind (pays.confirms _ rfl) fun _ _ reached => reached
  · refine follows_after_errands pays.errands (errand_await trivial) pays.thrown fun _ => ?_
    refine follows_after_errands pays.errands
      (only_recover (errand_await trivial) fun _ => trivial) pays.thrown fun _ => ?_
    refine follows_after_errands pays.errands only_throwIf pays.thrown fun _ => ?_
    refine follows_after_errands pays.errands
      (only_recover (only_then trivial fun _ => trivial) fun _ => trivial)
      pays.thrown fun _ => ?_
    exact Follows.bind (pays.confirms _ rfl) fun _ _ reached => reached

theorem PaysFrom.runCreditLeg {id : ℕ}
    (pays : PaysFrom protocol phase (.credit id) paid throws)
    (sends : ∀ transaction : Transaction, transaction.purpose = .credit id →
      protocol.Follows phase (await (.sendTransaction transaction))
        (ends (fun _ => paid) throws))
    (polls : ∀ reached, paid reached →
      throws reached ∧ ∀ op, Errand op → protocol.Neutral reached op)
    (route : Route) (bridgeSourceAmount creditAmount : ℚ) (wallets : Wallets) :
    protocol.Follows phase (runCreditLeg route bridgeSourceAmount creditAmount wallets id)
      (ends (fun _ => paid) throws) := by
  refine follows_after_errands pays.errands (errands_operatorInventory _ _ _) pays.thrown
    fun inventory => ?_
  split
  · split
    · exact pays.sendSolToken _ _ _ _
    · exact pays.sendBscToken _ _ _ _
  · split
    · refine follows_after_errands pays.errands (errands_topUpOperatorBridgeGasFromUser _ _)
        pays.thrown fun _ => ?_
      refine follows_after_errands pays.errands (errands_ensureNativeBnbForGas _ _ _) pays.thrown
        fun _ => ?_
      refine follows_after_errands pays.errands (errand_await trivial) pays.thrown fun _ => ?_
      refine follows_after_errands pays.errands only_orThrow pays.thrown fun _ => ?_
      refine follows_after_errands pays.errands (errands_ensureEvmAllowance _ _ _ _) pays.thrown
        fun _ => ?_
      refine follows_after_errands pays.errands (errand_await trivial) pays.thrown fun _ => ?_
      refine follows_after_errands pays.errands only_orThrow pays.thrown fun _ => ?_
      refine Follows.bind (pays.submits _ _ rfl) fun hash reached isPaid => ?_
      exact follows_after_errands (polls reached isPaid).2 (errands_pollLiFiStatus _ _ _ _)
        (polls reached isPaid).1 fun _ => isPaid
    · refine follows_after_errands pays.errands (errand_await trivial) pays.thrown fun _ => ?_
      refine follows_after_errands pays.errands only_orThrow pays.thrown fun _ => ?_
      refine Follows.bind (sends _ rfl) fun hash reached isPaid => ?_
      refine follows_after_errands (polls reached isPaid).2 (errand_await trivial)
        (polls reached isPaid).1 fun _ => ?_
      exact follows_after_errands (polls reached isPaid).2 (errands_pollLiFiStatus _ _ _ _)
        (polls reached isPaid).1 fun _ => isPaid

theorem follows_submitOnBsc {transaction : Transaction} {reverted : String}
    (sends : protocol.Follows phase (await (.sendTransaction transaction))
      (ends (fun _ => paid) throws))
    (waits : ∀ reached, paid reached →
      throws reached ∧ ∀ op, Errand op → protocol.Neutral reached op) :
    protocol.Follows phase (submitOnBsc transaction reverted)
      (ends (fun _ => paid) throws) := by
  refine Follows.bind sends fun hash reached isPaid => ?_
  refine follows_after_errands (waits reached isPaid).2 (errand_await trivial)
    (waits reached isPaid).1 fun _ => ?_
  exact follows_after_errands (waits reached isPaid).2 only_throwIf (waits reached isPaid).1
    fun _ => isPaid

end Payments

end GdslExchange.CrossChain
