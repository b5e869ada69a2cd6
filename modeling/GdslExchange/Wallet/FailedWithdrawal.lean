/-
This file says when a withdrawal that ends FAILED has moved nothing, and one that
moved something shows it.

Both wallets put the transfer and the writes after it into one `try`, so an error
after the transfer has left the wallet marks the row FAILED like an error before
it. The rows are right exactly when nothing goes wrong once the transfer has
left, or when the write of the error is refused as well.
-/

import GdslExchange.Wallet.Withdrawal

namespace GdslExchange.Wallet

open Async (Delivery)
open Async.Program

/-! ### The two withdrawals -/

inductive Chain where
  | bsc
  | solana
deriving DecidableEq

namespace Chain

/-- A withdrawal, up to the row of the request. -/
def prepare (setup : Setup) (request : WithdrawRequest) : Chain → Call Prepared
  | bsc => preparePersonal setup request
  | solana => prepareSolana setup request

/-- The transfer and everything after it. -/
def settle (prepared : Prepared) : Chain → Call Unit
  | bsc => settlePersonal prepared
  | solana => settleSolana prepared

def withdraw (setup : Setup) (request : WithdrawRequest) : Chain → Call Unit
  | bsc => withdrawFromPersonalWallet setup request
  | solana => withdrawFromSolanaWallet setup request

end Chain

/-- The row of a withdrawal tells what became of its transfer. -/
structure Tells (id : ℕ) (transfers : List String) (after : Vault) : Prop where
  failed : ∀ row, after.withdrawals[id]? = some row → row.status = .failed →
    after.transfers = transfers
  moved : after.transfers ≠ transfers → ∃ hash row, after.transfers = transfers ++ [hash] ∧
    after.withdrawals[id]? = some row ∧ row.status ≠ .failed ∧ row.reference = some hash

/-! ### The condition -/

section Condition

variable (fates : (op : Op) → Fate op) (id : ℕ)

/-- The error of a write is not written on the row. -/
def Unblamed (handler : String → WithdrawalPatch) (delivery : Delivery) : Prop :=
  ∀ message, delivery.reply () = .error message →
    ¬ (fates (.updateWithdrawal id (handler message))).Applies

/-- The fate of the fee, as it is estimated. -/
def feeOf (receipt : Receipt) : ℚ :=
  match fates (.fetchBinancePrice "BNBUSDT") with
  | .ok bnbUsd => Spot.fromUnits receipt.gasWei 18 * bnbUsd.getD 0
  | .error _ => 0

/-- Nothing that the background does marks the row of a transfer that left FAILED. -/
def WaitKept : Wait → Prop
  | .mined gasWei => Unblamed fates id failedPatch
      (fates (.updateWithdrawal id (receiptPatch (some ⟨1, gasWei⟩) (feeOf fates ⟨1, gasWei⟩))))
  | .missing => ¬ (fates (.updateWithdrawal id (receiptPatch none 0))).Applies ∧
      Unblamed fates id failedPatch (fates (.updateWithdrawal id (receiptPatch none 0)))
  | .failed message => ¬ (fates (.updateWithdrawal id (failedPatch message))).Applies

/-- A transfer from BSC that leaves is answered, its hash is written, and no error after it is
written on the row. -/
def PersonalKept : Sending → Prop
  | .landed hash =>
    let write := fates (.updateWithdrawal id { reference := some hash })
    write.Applies ∧ Unblamed fates id failedPatch write ∧
      (write = .answered → WaitKept fates id (fates (.waitForReceipt hash)))
  | .lost _ _ => False
  | _ => True

/-- A transfer from Solana that leaves is answered, its signature is written, and no error of
that write is written on the row. -/
def SolanaKept : Sending → Prop
  | .landed signature =>
    let write := fates (.updateWithdrawal id (confirmedPatch signature))
    write.Applies ∧ Unblamed fates id slicedPatch write
  | .lost _ _ => False
  | _ => True

/-- Nothing goes wrong with a transfer that leaves the wallet, or it is not written on its
row. -/
def Chain.Kept (vault : Vault) (prepared : Prepared) : Chain → Prop
  | .bsc => PersonalKept fates prepared.id (fates (.sendTransaction prepared.transfer))
  | .solana => (checkTokenAccounts prepared).exec fates vault = (vault, .ok ()) →
      SolanaKept fates prepared.id (fates (.sendAndConfirmTransaction prepared.transfer))

end Condition

/-! ### What a write leaves -/

structure Shows (id : ℕ) (row : Withdrawal) (transfers : List String) (vault : Vault) : Prop where
  row : vault.withdrawals[id]? = some row
  transfers : vault.transfers = transfers

def Withdrawal.OwnsUp (row : Withdrawal) (hash : String) : Prop :=
  row.status ≠ .failed ∧ row.reference = some hash

/-- A patch that marks its row FAILED and sets no reference. -/
structure WithdrawalPatch.Failing (patch : WithdrawalPatch) : Prop where
  status : patch.status = some .failed
  reference : patch.reference = none

section Writes

variable {fates : (op : Op) → Fate op} {id : ℕ} {row : Withdrawal} {transfers : List String}
  {vault : Vault} {hash : String}

theorem Shows.tells_iff (shows : Shows id row (transfers ++ [hash]) vault) :
    Tells id transfers vault ↔ row.OwnsUp hash := by
  have one : transfers ++ [hash] ≠ transfers := by
    intro same
    cases List.self_eq_append_right.mp same.symm
  constructor
  · rintro ⟨_, moved⟩
    rw [shows.transfers] at moved
    obtain ⟨other, current, same, found, facts⟩ := moved one
    rw [shows.row, Option.some.injEq] at found
    rw [List.append_cancel_left_eq, List.singleton_inj] at same
    rw [found, same]
    exact facts
  · rintro ⟨sound, refers⟩
    refine ⟨fun current found isFailed => ?_, fun _ =>
      ⟨hash, row, shows.transfers, shows.row, sound, refers⟩⟩
    rw [shows.row, Option.some.injEq] at found
    rw [← found] at isFailed
    exact absurd isFailed sound

/-- A withdrawal that moved nothing tells so. -/
theorem tells_of_still (still : vault.transfers = transfers) : Tells id transfers vault :=
  ⟨fun _ _ _ => still, fun moved => absurd still moved⟩

theorem exec_update (shows : Shows id row transfers vault) (patch : WithdrawalPatch) :
    ∃ after, (await (.updateWithdrawal id patch)).exec fates vault =
        (after, (fates (.updateWithdrawal id patch)).reply ()) ∧
      Shows id (if (fates (.updateWithdrawal id patch)).Applies then patch.apply row else row)
        transfers after := by
  have written : (await (.updateWithdrawal id patch)).exec fates vault =
      (fates (.updateWithdrawal id patch) : Delivery).write vault
        (vault.write (vault.withdrawals.set id (patch.apply row))) () := by
    refine (exec_perform _ _).trans ?_
    simp only [perform, shows.row]
  refine ⟨_, written, ?_⟩
  split
  · refine ⟨?_, shows.transfers⟩
    exact List.getElem?_set_self (List.getElem?_eq_some_iff.mp shows.row).1
  · exact shows

theorem ownsUp_failing_iff {patch : WithdrawalPatch} (failing : patch.Failing) {applied : Prop}
    [Decidable applied] :
    (if applied then patch.apply row else row).OwnsUp hash ↔ row.OwnsUp hash ∧ ¬ applied := by
  split
  · refine ⟨fun owns => absurd ?_ owns.1, fun both => absurd ‹applied› both.2⟩
    unfold WithdrawalPatch.apply
    rw [failing.status]
    rfl
  · exact ⟨fun owns => ⟨owns, ‹¬ applied›⟩, And.left⟩

theorem exec_caught {Value : Type} {body : Call Value} {handler : String → Call Value}
    {patch : String → WithdrawalPatch} (failing : ∀ message, (patch message).Failing)
    (writes : ∀ message current, ((handler message).exec fates current).1 =
      ((await (.updateWithdrawal id (patch message))).exec fates current).1)
    {reached : Vault} {result : Except String Value}
    (ran : body.exec fates vault = (reached, result)) (shows : Shows id row transfers reached) :
    ∃ final, Shows id final transfers ((body.recover handler).exec fates vault).1 ∧
      (final.OwnsUp hash ↔ row.OwnsUp hash ∧ ∀ message, result = .error message →
        ¬ (fates (.updateWithdrawal id (patch message))).Applies) := by
  rw [exec_recover, ran]
  cases result with
  | ok value => exact ⟨row, shows, fun owns => ⟨owns, nofun⟩, And.left⟩
  | error message =>
    obtain ⟨after, written, showsAfter⟩ := @exec_update fates _ _ _ _ shows (patch message)
    have handled : ((handler message).exec fates reached).1 = after := by
      rw [writes, written]
    rw [← handled] at showsAfter
    refine ⟨_, showsAfter, (ownsUp_failing_iff (failing message)).trans ?_⟩
    refine and_congr_right fun _ => ⟨fun refused other same => ?_, fun each => each _ rfl⟩
    cases same
    exact refused

theorem failing_failedPatch (message : String) : (failedPatch message).Failing := ⟨rfl, rfl⟩

end Writes

/-! ### Before the transfer -/

section Before

variable {fates : (op : Op) → Fate op} {vault reached : Vault}

/-- An operation that leaves the vault as it is. -/
def Looks (fates : (op : Op) → Fate op) (op : Op) : Prop :=
  ∀ vault, (perform op (fates op) vault).1 = vault

theorem exec_looks {Value : Type} {program : Call Value} (only : program.Only (Looks fates))
    (vault : Vault) : (program.exec fates vault).1 = vault :=
  @exec_keeps chains Value fates (Looks fates) (fun current => current = vault)
    (fun _ current looks same => (looks current).trans same) program only vault rfl

theorem looks_await {op : Op} (looks : Looks fates op) : (await op).Only (Looks fates) :=
  only_perform looks

theorem looks_checkPersonal (setup : Setup) (request : WithdrawRequest) :
    (checkPersonal setup request).Only (Looks fates) := by
  refine only_bind only_ofExcept fun _ => only_bind only_throwIf fun _ => ?_
  refine only_bind only_orThrow fun _ => only_bind (looks_await fun _ => rfl) fun _ => ?_
  refine only_bind only_orThrow fun _ => only_bind only_throwIf fun _ => ?_
  refine only_bind (looks_await fun _ => rfl) fun _ => ?_
  refine only_bind (looks_await fun _ => rfl) fun _ => only_bind only_ofExcept fun _ => ?_
  exact only_bind only_throwIf fun _ => trivial

theorem looks_checkSolana (setup : Setup) (request : WithdrawRequest) :
    (checkSolana setup request).Only (Looks fates) := by
  refine only_bind only_throwIf fun _ => only_bind only_throwIf fun _ => ?_
  refine only_bind only_throwIf fun _ => only_bind only_ofExcept fun _ => ?_
  refine only_bind (looks_await fun _ => rfl) fun _ => only_bind only_orThrow fun _ => ?_
  refine only_bind only_throwIf fun _ => only_bind (looks_await fun _ => rfl) fun _ => ?_
  refine only_bind only_throwIf fun _ => only_bind (looks_await fun _ => rfl) fun _ => ?_
  refine only_bind ?_ fun _ => trivial
  unfold checkSol
  split <;> exact only_throwIf

theorem looks_checkTokenAccounts (prepared : Prepared) :
    (checkTokenAccounts prepared).Only (Looks fates) := by
  unfold checkTokenAccounts
  split
  · trivial
  · refine only_bind (only_recover (looks_await fun _ => rfl) fun _ => trivial) fun _ => ?_
    refine only_bind only_throwIf fun _ => ?_
    exact only_bind (only_recover (looks_await fun _ => rfl) fun _ => trivial) fun _ => trivial

theorem looks_estimateFeeUsd (receipt? : Option Receipt) :
    (estimateFeeUsd receipt?).Only (Looks fates) := by
  unfold estimateFeeUsd
  split
  · trivial
  · exact only_recover (only_bind (looks_await fun _ => rfl) fun _ => trivial) fun _ => trivial

theorem recordRequest_shows {checked : Checked} {prepared : Prepared}
    (recorded : (recordRequest checked).exec fates vault = (reached, .ok prepared)) :
    prepared.id = vault.withdrawals.length ∧
      Shows prepared.id checked.row vault.transfers reached := by
  obtain ⟨between, id, created, returned⟩ := exec_bind_returned recorded
  cases returned
  have isCreated : (fates (.createWithdrawal checked.row) : Delivery).write vault
      (vault.write (vault.withdrawals ++ [checked.row])) vault.withdrawals.length =
      (reached, .ok id) := (exec_perform _ _).symm.trans created
  cases delivery : fates (.createWithdrawal checked.row) with
  | answered =>
    rw [delivery] at isCreated
    cases isCreated
    rw [if_pos (show Delivery.answered.Applies from trivial)]
    exact ⟨rfl, by simp [Vault.write], rfl⟩
  | refused message =>
    rw [delivery] at isCreated
    cases isCreated
  | lost message =>
    rw [delivery] at isCreated
    cases isCreated

theorem prepare_shows {chain : Chain} {setup : Setup} {request : WithdrawRequest}
    {prepared : Prepared}
    (ran : (chain.prepare setup request).exec fates vault = (reached, .ok prepared)) :
    prepared.id = vault.withdrawals.length ∧ ∃ checked : Checked,
      Shows prepared.id checked.row vault.transfers reached := by
  cases chain with
  | bsc =>
    obtain ⟨between, checked, passed, recorded⟩ := exec_bind_returned ran
    have same := exec_looks (@looks_checkPersonal fates setup request) vault
    rw [passed] at same
    cases same
    exact ⟨(recordRequest_shows recorded).1, checked, (recordRequest_shows recorded).2⟩
  | solana =>
    obtain ⟨between, checked, passed, recorded⟩ := exec_bind_returned ran
    have same := exec_looks (@looks_checkSolana fates setup request) vault
    rw [passed] at same
    cases same
    exact ⟨(recordRequest_shows recorded).1, checked, (recordRequest_shows recorded).2⟩

/-- A request that does not get on record moves nothing. -/
theorem prepare_still {chain : Chain} {setup : Setup} {request : WithdrawRequest} :
    ((chain.prepare setup request).exec fates vault).1.transfers = vault.transfers := by
  have still : ∀ check : Call Checked, check.Only (Looks fates) →
      ((check >>= recordRequest).exec fates vault).1.transfers = vault.transfers := by
    intro check looks
    refine @exec_keeps chains _ fates
      (fun op => ∀ current, (perform op (fates op) current).1.transfers = current.transfers)
      (fun current => current.transfers = vault.transfers)
      (fun _ current still same => (still current).trans same) _ ?_ vault rfl
    refine only_bind (looks.mono fun op looks current => congrArg Vault.transfers (looks current))
      fun checked => only_bind (only_perform fun current => ?_) fun _ => trivial
    simp only [perform, Delivery.write]
    split <;> rfl
  cases chain with
  | bsc => exact still _ (looks_checkPersonal setup request)
  | solana => exact still _ (looks_checkSolana setup request)

end Before

/-! ### The transfer and after -/

section Settle

variable {fates : (op : Op) → Fate op} {vault : Vault} {row : Withdrawal}
  {transfers : List String} {id : ℕ}

theorem Shows.move (shows : Shows id row transfers vault) (hash : String) :
    Shows id row (transfers ++ [hash]) (vault.move hash) := by
  refine ⟨shows.row, ?_⟩
  unfold Vault.move
  rw [shows.transfers]

theorem not_ownsUp (fresh : row.reference = none) (hash : String) : ¬ row.OwnsUp hash := by
  rintro ⟨_, refers⟩
  rw [fresh] at refers
  cases refers

theorem ownsUp_write_iff {patch : WithdrawalPatch} {hash : String} {applied : Prop}
    [Decidable applied] (fresh : row.reference = none) (refers : patch.reference = some hash)
    (sound : (patch.apply row).status ≠ .failed) :
    (if applied then patch.apply row else row).OwnsUp hash ↔ applied := by
  split
  · refine ⟨fun _ => ‹applied›, fun _ => ⟨sound, ?_⟩⟩
    unfold WithdrawalPatch.apply
    rw [refers]
    rfl
  · exact ⟨fun owns => absurd owns (not_ownsUp fresh hash), fun is => absurd is ‹¬ applied›⟩

/-- A `try` whose body moves nothing. -/
theorem tells_of_thrown {Value : Type} {body : Call Value} {handler : String → Call Value}
    {patch : String → WithdrawalPatch} (failing : ∀ message, (patch message).Failing)
    (writes : ∀ message current, ((handler message).exec fates current).1 =
      ((await (.updateWithdrawal id (patch message))).exec fates current).1)
    (shows : Shows id row transfers vault) {result : Except String Value}
    (ran : body.exec fates vault = (vault, result)) :
    Tells id transfers ((body.recover handler).exec fates vault).1 := by
  obtain ⟨final, showsFinal, _⟩ := @exec_caught fates id row transfers vault "" Value body handler
    patch failing writes vault result ran shows
  exact tells_of_still showsFinal.transfers

/-- Both `catch` blocks of a call write the error and rethrow it. -/
theorem exec_handled {patch : String → WithdrawalPatch} {Value : Type} (message : String)
    (current : Vault) : ((await (.updateWithdrawal id (patch message)) >>= fun _ =>
      (failed message : Call Value)).exec fates current).1 =
      ((await (.updateWithdrawal id (patch message))).exec fates current).1 := by
  obtain ⟨thrown, handled⟩ := @exec_thenThrow chains _ Value fates
    (await (.updateWithdrawal id (patch message))) message current
  exact congrArg Prod.fst handled

theorem settleSolana_tells_iff {prepared : Prepared}
    (shows : Shows prepared.id row transfers vault) (fresh : row.reference = none) :
    Tells prepared.id transfers ((settleSolana prepared).exec fates vault).1 ↔
      Chain.solana.Kept fates vault prepared := by
  have failing : ∀ message, (slicedPatch message).Failing := fun _ => failing_failedPatch _
  have writes := @exec_handled fates prepared.id slicedPatch Unit
  have same := exec_looks (@looks_checkTokenAccounts fates prepared) vault
  rcases checked : (checkTokenAccounts prepared).exec fates vault with ⟨reached, thrown | passed⟩
  · obtain rfl : vault = reached := by
      rw [checked] at same
      exact same.symm
    refine iff_of_true (tells_of_thrown failing writes shows (exec_bind_error checked)) ?_
    intro isOk
    rw [checked] at isOk
    cases isOk
  · obtain rfl : vault = reached := by
      rw [checked] at same
      exact same.symm
    have kept : Chain.solana.Kept fates vault prepared ↔
        SolanaKept fates prepared.id (fates (.sendAndConfirmTransaction prepared.transfer)) :=
      ⟨fun kept => kept checked, fun kept _ => kept⟩
    have sent := @exec_perform chains fates (.sendAndConfirmTransaction prepared.transfer) vault
    rw [kept]
    cases sending : fates (.sendAndConfirmTransaction prepared.transfer) with
    | landed signature =>
      simp only [perform, sending] at sent
      obtain ⟨after, written, showsAfter⟩ :=
        @exec_update fates _ _ _ _ (shows.move signature) (confirmedPatch signature)
      have ran : (transferSolana prepared).exec fates vault = (after,
          (fates (.updateWithdrawal prepared.id (confirmedPatch signature))).reply ()) := by
        unfold transferSolana
        rw [exec_bind_ok checked]
        exact (exec_bind_ok sent).trans written
      obtain ⟨final, showsFinal, ownsUp⟩ :=
        @exec_caught fates _ _ _ _ signature _ _ _ _ failing writes _ _ ran showsAfter
      have sound : ((confirmedPatch signature).apply row).status ≠ .failed :=
        WithdrawalStatus.noConfusion
      rw [settleSolana, showsFinal.tells_iff, ownsUp, ownsUp_write_iff fresh rfl sound]
      rfl
    | stranded signature =>
      simp only [perform, sending] at sent
      have ran : (transferSolana prepared).exec fates vault =
          (vault, .error ("Transaction " ++ signature ++ " failed")) := by
        unfold transferSolana
        rw [exec_bind_ok checked]
        exact exec_bind_error sent
      exact iff_of_true (tells_of_thrown failing writes shows ran) trivial
    | refused message =>
      simp only [perform, sending] at sent
      have ran : (transferSolana prepared).exec fates vault = (vault, .error message) := by
        unfold transferSolana
        rw [exec_bind_ok checked]
        exact exec_bind_error sent
      exact iff_of_true (tells_of_thrown failing writes shows ran) trivial
    | lost signature message =>
      simp only [perform, sending] at sent
      have ran : (transferSolana prepared).exec fates vault =
          (vault.move signature, .error message) := by
        unfold transferSolana
        rw [exec_bind_ok checked]
        exact exec_bind_error sent
      obtain ⟨final, showsFinal, ownsUp⟩ :=
        @exec_caught fates _ _ _ _ signature _ _ _ _ failing writes _ _ ran (shows.move signature)
      rw [settleSolana, showsFinal.tells_iff, ownsUp]
      exact iff_of_false (fun both => not_ownsUp fresh signature both.1) id

theorem exec_estimateFeeUsd (receipt : Receipt) :
    (estimateFeeUsd (some receipt)).exec fates vault = (vault, .ok (feeOf fates receipt)) := by
  have priced := @exec_perform chains fates (.fetchBinancePrice "BNBUSDT") vault
  unfold estimateFeeUsd feeOf
  rw [exec_recover]
  cases answer : fates (.fetchBinancePrice "BNBUSDT") with
  | ok bnbUsd =>
    simp only [perform, answer] at priced
    have ran : (await (.fetchBinancePrice "BNBUSDT") >>= fun bnbUsd => pure
        (Spot.fromUnits receipt.gasWei 18 * Option.getD bnbUsd 0)).exec fates vault =
        (vault, .ok (Spot.fromUnits receipt.gasWei 18 * bnbUsd.getD 0)) := exec_bind_ok priced
    rw [ran]
  | error message =>
    simp only [perform, answer] at priced
    have ran : (await (.fetchBinancePrice "BNBUSDT") >>= fun bnbUsd => pure
        (Spot.fromUnits receipt.gasWei 18 * Option.getD bnbUsd 0)).exec fates vault =
        (vault, .error message) := exec_bind_error priced
    rw [ran]
    rfl

/-- The background keeps a row honest if and only if no error of it is written on the row. -/
theorem confirmPersonal_tells_iff {hash : String}
    (shows : Shows id row (transfers ++ [hash]) vault) (owns : row.OwnsUp hash) :
    Tells id transfers ((confirmPersonal id hash).exec fates vault).1 ↔
      WaitKept fates id (fates (.waitForReceipt hash)) := by
  have writes : ∀ message current,
      ((await (.updateWithdrawal id (failedPatch message))).exec fates current).1 =
      ((await (.updateWithdrawal id (failedPatch message))).exec fates current).1 :=
    fun _ _ => rfl
  have waited := @exec_perform chains fates (.waitForReceipt hash) vault
  have isThere : hash ∈ vault.transfers := by
    rw [shows.transfers]
    exact List.mem_append_right _ List.mem_cons_self
  cases wait : fates (.waitForReceipt hash) with
  | mined gasWei =>
    simp only [perform, wait, isThere, if_true] at waited
    obtain ⟨after, written, showsAfter⟩ := @exec_update fates _ _ _ _ shows
      (receiptPatch (some ⟨1, gasWei⟩) (feeOf fates ⟨1, gasWei⟩))
    have ran : (recordReceipt id hash).exec fates vault = (after, (fates (.updateWithdrawal id
        (receiptPatch (some ⟨1, gasWei⟩) (feeOf fates ⟨1, gasWei⟩)))).reply ()) := by
      refine (exec_bind_ok waited).trans ?_
      rw [exec_bind_ok (exec_estimateFeeUsd _)]
      exact written
    obtain ⟨final, showsFinal, ownsUp⟩ := @exec_caught fates _ _ _ _ hash _ _ _ _
      failing_failedPatch writes _ _ ran showsAfter
    rw [confirmPersonal, showsFinal.tells_iff, ownsUp, and_iff_right]
    · rfl
    · split
      · exact ⟨nofun, owns.2⟩
      · exact owns
  | missing =>
    simp only [perform, wait] at waited
    obtain ⟨after, written, showsAfter⟩ := @exec_update fates _ _ _ _ shows (receiptPatch none 0)
    have ran : (recordReceipt id hash).exec fates vault = (after,
        (fates (.updateWithdrawal id (receiptPatch none 0))).reply ()) :=
      (exec_bind_ok waited).trans written
    obtain ⟨final, showsFinal, ownsUp⟩ := @exec_caught fates _ _ _ _ hash _ _ _ _
      failing_failedPatch writes _ _ ran showsAfter
    rw [confirmPersonal, showsFinal.tells_iff, ownsUp, ownsUp_failing_iff ⟨rfl, rfl⟩,
      and_iff_right owns]
    rfl
  | failed message =>
    simp only [perform, wait] at waited
    have ran : (recordReceipt id hash).exec fates vault = (vault, .error message) :=
      exec_bind_error waited
    obtain ⟨final, showsFinal, ownsUp⟩ := @exec_caught fates _ _ _ _ hash _ _ _ _
      failing_failedPatch writes _ _ ran shows
    rw [confirmPersonal, showsFinal.tells_iff, ownsUp, and_iff_right owns]
    refine ⟨fun each => each message rfl, fun refused other same => ?_⟩
    cases same
    exact refused

/-- A transfer from BSC that throws. -/
theorem settlePersonal_thrown {prepared : Prepared} {reached : Vault} {message hash : String}
    (ran : (transferPersonal prepared).exec fates vault = (reached, .error message))
    (shows : Shows prepared.id row transfers reached) :
    ∃ final, Shows prepared.id final transfers ((settlePersonal prepared).exec fates vault).1 ∧
      (final.OwnsUp hash ↔ row.OwnsUp hash ∧
        ¬ (fates (.updateWithdrawal prepared.id (failedPatch message))).Applies) := by
  obtain ⟨final, showsFinal, ownsUp⟩ := @exec_caught fates _ _ _ _ hash _ _ _ _
    failing_failedPatch exec_handled _ _ ran shows
  have thrown : ∃ after failure, (broadcastPersonal prepared).exec fates vault =
      (after, .error failure) := by
    unfold broadcastPersonal
    rw [exec_recover, ran]
    obtain ⟨failure, handled⟩ := @exec_thenThrow chains _ String fates
      (await (.updateWithdrawal prepared.id (failedPatch message))) message reached
    exact ⟨_, failure, handled⟩
  obtain ⟨after, failure, broadcast⟩ := thrown
  have settled : (settlePersonal prepared).exec fates vault = (after, .error failure) :=
    exec_bind_error broadcast
  rw [← broadcastPersonal, broadcast] at showsFinal
  rw [settled]
  refine ⟨final, showsFinal, ownsUp.trans (and_congr_right fun _ => ?_)⟩
  refine ⟨fun each => each message rfl, fun refused other same => ?_⟩
  cases same
  exact refused

/-- A transfer that is accepted and takes no effect moves nothing. -/
theorem settlePersonal_stranded {prepared : Prepared} {hash : String}
    (sending : fates (.sendTransaction prepared.transfer) = .stranded hash) :
    ((settlePersonal prepared).exec fates vault).1.transfers = vault.transfers := by
  let Still : Op → Prop := fun op =>
    ∀ current, (perform op (fates op) current).1.transfers = current.transfers
  have updates : ∀ id patch, Still (.updateWithdrawal id patch) := by
    intro id patch current
    simp only [perform]
    split
    · rfl
    · unfold Delivery.write
      split <;> rfl
  have sends : Still (.sendTransaction prepared.transfer) := by
    intro current
    simp only [perform, sending]
  refine @exec_keeps chains Unit fates Still (fun current => current.transfers = vault.transfers)
    (fun _ current still same => (still current).trans same) _ ?_ vault rfl
  refine only_bind (only_recover ?_ fun _ => ?_) fun _ => only_recover ?_ fun _ => ?_
  · refine only_then sends fun _ => ?_
    exact only_then (updates _ _) fun _ => trivial
  · exact only_then (updates _ _) fun _ => trivial
  · refine only_bind (only_perform fun _ => rfl) fun receipt? => ?_
    refine only_bind ?_ fun _ => only_perform (updates _ _)
    exact (looks_estimateFeeUsd receipt?).mono fun op looks current =>
      congrArg Vault.transfers (looks current)
  · exact only_perform (updates _ _)

theorem settlePersonal_tells_iff {prepared : Prepared}
    (shows : Shows prepared.id row transfers vault) (fresh : row.reference = none)
    (sound : row.status ≠ .failed) :
    Tells prepared.id transfers ((settlePersonal prepared).exec fates vault).1 ↔
      Chain.bsc.Kept fates vault prepared := by
  have sent := @exec_perform chains fates (.sendTransaction prepared.transfer) vault
  show _ ↔ PersonalKept fates prepared.id (fates (.sendTransaction prepared.transfer))
  cases sending : fates (.sendTransaction prepared.transfer) with
  | landed hash =>
    simp only [perform, sending] at sent
    obtain ⟨after, written, showsAfter⟩ :=
      @exec_update fates _ _ _ _ (shows.move hash) { reference := some hash }
    have owns : ((WithdrawalPatch.apply { reference := some hash } row)).OwnsUp hash :=
      ⟨sound, rfl⟩
    unfold PersonalKept
    dsimp only
    cases delivery : fates (.updateWithdrawal prepared.id { reference := some hash }) with
    | answered =>
      rw [delivery] at written showsAfter
      have ran : (broadcastPersonal prepared).exec fates vault = (after, .ok hash) := by
        unfold broadcastPersonal
        rw [exec_recover, show (transferPersonal prepared).exec fates vault = (after, .ok hash)
          from (exec_bind_ok sent).trans (exec_bind_ok written)]
      have settled : (settlePersonal prepared).exec fates vault =
          (confirmPersonal prepared.id hash).exec fates after := exec_bind_ok ran
      rw [settled, confirmPersonal_tells_iff showsAfter owns]
      exact ⟨fun kept => ⟨trivial, nofun, fun _ => kept⟩, fun kept => kept.2.2 rfl⟩
    | refused message =>
      rw [delivery] at written showsAfter
      have ran : (transferPersonal prepared).exec fates vault = (after, .error message) :=
        (exec_bind_ok sent).trans (exec_bind_error written)
      obtain ⟨final, showsFinal, ownsUp⟩ :=
        @settlePersonal_thrown _ _ _ _ _ _ _ hash ran showsAfter
      rw [showsFinal.tells_iff, ownsUp]
      exact iff_of_false (fun both => not_ownsUp fresh hash both.1) fun kept => kept.1
    | lost message =>
      rw [delivery] at written showsAfter
      have ran : (transferPersonal prepared).exec fates vault = (after, .error message) :=
        (exec_bind_ok sent).trans (exec_bind_error written)
      obtain ⟨final, showsFinal, ownsUp⟩ :=
        @settlePersonal_thrown _ _ _ _ _ _ _ hash ran showsAfter
      rw [showsFinal.tells_iff, ownsUp]
      refine ⟨fun both => ⟨trivial, fun other same => ?_, nofun⟩, fun kept =>
        ⟨owns, kept.2.1 message rfl⟩⟩
      cases same
      exact both.2
  | stranded hash =>
    exact iff_of_true
      (tells_of_still ((settlePersonal_stranded sending).trans shows.transfers)) trivial
  | refused message =>
    simp only [perform, sending] at sent
    have ran : (transferPersonal prepared).exec fates vault = (vault, .error message) :=
      exec_bind_error sent
    obtain ⟨final, showsFinal, _⟩ := @settlePersonal_thrown _ _ _ _ _ _ _ "" ran shows
    exact iff_of_true (tells_of_still showsFinal.transfers) trivial
  | lost hash message =>
    simp only [perform, sending] at sent
    have ran : (transferPersonal prepared).exec fates vault =
        (vault.move hash, .error message) := exec_bind_error sent
    obtain ⟨final, showsFinal, ownsUp⟩ :=
      @settlePersonal_thrown _ _ _ _ _ _ _ hash ran (shows.move hash)
    rw [showsFinal.tells_iff, ownsUp]
    exact iff_of_false (fun both => not_ownsUp fresh hash both.1) id

end Settle

/-! ### Exactly the honest withdrawals -/

/-- A withdrawal that ends FAILED moved nothing, and one that moved something is not FAILED and
carries its reference, if and only if nothing goes wrong once the transfer has left the wallet,
or the error is not written on the row. -/
theorem tells_iff_kept (chain : Chain) (setup : Setup) (request : WithdrawRequest)
    (fates : (op : Op) → Fate op) (vault : Vault) :
    Tells vault.withdrawals.length vault.transfers
        ((chain.withdraw setup request).exec fates vault).1 ↔
      ∀ reached prepared, (chain.prepare setup request).exec fates vault =
        (reached, .ok prepared) → chain.Kept fates reached prepared := by
  have split : (chain.withdraw setup request).exec fates vault =
      (chain.prepare setup request >>= fun prepared => chain.settle prepared).exec fates
        vault := by
    cases chain <;> rfl
  rw [split]
  rcases ran : (chain.prepare setup request).exec fates vault with ⟨reached, thrown | prepared⟩
  · rw [exec_bind_error ran]
    have still := @prepare_still fates vault chain setup request
    rw [ran] at still
    refine iff_of_true (tells_of_still still) fun reached prepared isOk => ?_
    rw [ran] at isOk
    cases isOk
  · rw [exec_bind_ok ran]
    obtain ⟨isNew, checked, shows⟩ := prepare_shows ran
    have settled : Tells prepared.id vault.transfers
        ((chain.settle prepared).exec fates reached).1 ↔ chain.Kept fates reached prepared := by
      cases chain with
      | bsc => exact settlePersonal_tells_iff shows rfl nofun
      | solana => exact settleSolana_tells_iff shows rfl
    rw [← isNew, settled]
    refine ⟨fun kept after other isOk => ?_, fun each => each reached prepared ran⟩
    rw [ran] at isOk
    cases isOk
    exact kept

/-- A wallet that holds enough, and a chain on which the transfer lands. On BSC the wait for
the receipt times out, on Solana the confirmation does. -/
def slowChain : (op : Op) → Fate op
  | .findWallet => .ok (some true)
  | .loadSigner => .ok "owner"
  | .balanceOf _ => .ok (10 ^ 20)
  | .createWithdrawal _ => .answered
  | .updateWithdrawal _ _ => .answered
  | .sendTransaction _ => .landed "0x1"
  | .waitForReceipt _ => .failed "timeout"
  | .fetchBinancePrice _ => .ok none
  | .getTokenAccount _ => .ok (10 ^ 12)
  | .sendAndConfirmTransaction _ => .lost "0x1" "not confirmed"

/-- The wallet's one withdrawal, of five dollars, moves them and ends FAILED. -/
theorem not_tells : ¬ ∃ chain : Chain, ∀ (setup : Setup) (request : WithdrawRequest)
    (fates : (op : Op) → Fate op) (vault : Vault),
    Tells vault.withdrawals.length vault.transfers
      ((chain.withdraw setup request).exec fates vault).1 := by
  rintro ⟨chain, claimed⟩
  have told := claimed ⟨true, .ok, .ok⟩ ⟨"usdc", 5, "0xa"⟩ slowChain ⟨[], []⟩
  have moved : ((chain.withdraw ⟨true, .ok, .ok⟩ ⟨"usdc", 5, "0xa"⟩).exec slowChain
      ⟨[], []⟩).1.transfers = ["0x1"] := by cases chain <;> decide +kernel
  obtain ⟨hash, row, _, found, sound, _⟩ := told.moved (by rw [moved]; nofun)
  have marked : (((chain.withdraw ⟨true, .ok, .ok⟩ ⟨"usdc", 5, "0xa"⟩).exec slowChain
      ⟨[], []⟩).1.withdrawals[0]?).map Withdrawal.status = some .failed := by
    cases chain <;> decide +kernel
  rw [show ((chain.withdraw ⟨true, .ok, .ok⟩ ⟨"usdc", 5, "0xa"⟩).exec slowChain
    ⟨[], []⟩).1.withdrawals[0]? = some row from found, Option.map_some, Option.some.injEq] at marked
  exact sound marked

end GdslExchange.Wallet
