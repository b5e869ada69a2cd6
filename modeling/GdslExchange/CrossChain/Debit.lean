/-
This file follows one `executeCrossChainTransfer` call, stopped after any number
of its steps, and settles when the record it leaves behind accounts for a debit
that has landed.

The service books a debit in three writes: the debit itself, the DEBITED update
and the update with the outcome of the credit. The sweep of pending credits
selects neither a PENDING nor a DEBITED nor a FAILED record, so the debit is
accounted for when all three have gone through and not before.
-/

import GdslExchange.CrossChain.Errands

namespace GdslExchange.CrossChain

open Async Async.Program
open Protocol (Follows anywhere ends phase_after_self sound)

/-! ### What the log says -/

/-- The record the call created. -/
def createdTransfer : Event chains → Option ℕ
  | ⟨_, .createTransfer _, _, .ok stored⟩ => some stored.id
  | _ => none

def ConfirmsDebit : Event chains → Prop
  | ⟨_, .sendAndConfirmTransaction transaction, _, .ok _⟩ =>
    ∃ id, transaction.purpose = .debit id
  | _ => False

/-- A BSC debit that was submitted under a hash. -/
def SubmitsDebit (hash : ℕ) : Event chains → Prop
  | ⟨_, .sendTransaction transaction, _, .ok sent⟩ =>
    sent = hash ∧ ∃ id, transaction.purpose = .debit id
  | _ => False

/-- A receipt that says that the transaction has landed. -/
def ReceivesReceipt (hash : ℕ) : Event chains → Prop
  | ⟨_, .waitForReceipt sent, _, .ok (some true)⟩ => sent = hash
  | _ => False

/-- The DEBITED update was answered. -/
def StoresDebit : Event chains → Prop
  | ⟨_, .updateTransfer _ patch, _, .ok _⟩ => patch.status = .debited
  | _ => False

/-- The update with the outcome of the credit took effect. -/
def StoresOutcome : Event chains → Prop
  | ⟨_, .updateTransfer _ patch, delivery, _⟩ =>
    delivery.Applies ∧ (patch.status = .completed ∨ patch.status = .creditPending)
  | _ => False

/-- The service has been told that the debit has landed. -/
def DebitReported (moment : Moment chains) : Prop :=
  (∃ event ∈ moment.log, ConfirmsDebit event) ∨
    ∃ hash, (∃ event ∈ moment.log, SubmitsDebit hash event) ∧
      ∃ event ∈ moment.log, ReceivesReceipt hash event

/-! ### The property and the condition -/

def recordOf (moment : Moment chains) : Option ℕ := moment.log.findSome? createdTransfer

def DebitLanded (moment : Moment chains) (id : ℕ) : Prop :=
  moment.state.landedFor (.debit id) ≠ []

/-- The record names the debit, and is finished or in the hands of the sweep. -/
def Accounted (row : Transfer) : Prop :=
  row.debitTxRef ≠ none ∧ (row.status = .completed ∨ row.awaitsRetry)

/-- A FAILED record has no landed debit, and a landed debit is accounted for. -/
def NoOrphan (moment : Moment chains) : Prop :=
  ∀ id row, recordOf moment = some id → moment.state.transfers[id]? = some row →
    (row.status = .failed → ¬ DebitLanded moment id) ∧ (DebitLanded moment id → Accounted row)

/-- The three writes of a debit have gone through: it was reported as landed, the DEBITED update
was answered, and the update with the outcome took effect. -/
structure Booked (moment : Moment chains) : Prop where
  reported : DebitReported moment
  debited : ∃ event ∈ moment.log, StoresDebit event
  outcome : ∃ event ∈ moment.log, StoresOutcome event

/-! ### Phases of the call -/

/-- How far the debit of a record has come. -/
inductive DebitPhase where
  | planning
  | created (id : ℕ)
  | submitted (id hash : ℕ)
  | reported (id : ℕ)
  | debited (id : ℕ)
  | isOver (id : ℕ)

namespace DebitPhase

def create (id : ℕ) : DebitPhase → DebitPhase
  | planning => created id
  | phase => phase

/-- A BSC debit was submitted. -/
def submit (purpose : Purpose) (hash : ℕ) : DebitPhase → DebitPhase
  | created id => if purpose = .debit id then submitted id hash else created id
  | phase => phase

def confirm (purpose : Purpose) : DebitPhase → DebitPhase
  | created id => if purpose = .debit id then reported id else created id
  | phase => phase

/-- The wait for a receipt ended. -/
def receive (sent : ℕ) (receipt : Except String (Option Bool)) : DebitPhase → DebitPhase
  | submitted id hash =>
    if receipt = .ok (some true) ∧ sent = hash then reported id else created id
  | phase => phase

/-- An update of the record was answered or not. -/
def write (answered : Bool) : DebitPhase → DebitPhase
  | created id => isOver id
  | reported id => if answered then debited id else isOver id
  | debited id => isOver id
  | phase => phase

end DebitPhase

def nextDebitPhase (phase : DebitPhase) (op : Op) (reply : Except String (Result op)) :
    DebitPhase :=
  match op, reply with
  | .createTransfer _, .ok stored => phase.create stored.id
  | .sendTransaction transaction, .ok hash => phase.submit transaction.purpose hash
  | .sendAndConfirmTransaction transaction, .ok _ => phase.confirm transaction.purpose
  | .waitForReceipt sent, receipt => phase.receive sent receipt
  | .updateTransfer _ _, .ok _ => phase.write true
  | .updateTransfer _ _, .error _ => phase.write false
  | _, _ => phase

/-- The record is created once and written only in the order of the three writes. -/
def PermitsDebit (phase : DebitPhase) : Op → Prop
  | .createTransfer row => phase = .planning ∧ row.status = .pending ∧ row.debitTxRef = none
  | .updateTransfer target patch => match phase with
    | .created id => target = id ∧ patch.status = .failed
    | .reported id => target = id ∧ patch.status = .debited ∧ patch.debitTxRef ≠ none
    | .debited id => target = id ∧ (patch.status = .completed ∨ patch.status = .creditPending)
    | _ => False
  | _ => True

/-- How the call goes about its debit. -/
def debiting : Protocol chains DebitPhase where
  start := .planning
  permits := PermitsDebit
  next := nextDebitPhase

/-! ### What each phase knows -/

def RecordIs (moment : Moment chains) (id : ℕ) (predicate : Transfer → Prop) : Prop :=
  recordOf moment = some id ∧
    ∃ row, moment.state.transfers[id]? = some row ∧ predicate row

/-- Neither the debit nor an outcome has been stored. -/
def NoWrites (moment : Moment chains) : Prop :=
  (¬ ∃ event ∈ moment.log, StoresDebit event) ∧ ¬ ∃ event ∈ moment.log, StoresOutcome event

/-- The record is as it was created. -/
def Unwritten (moment : Moment chains) (id : ℕ) : Prop :=
  RecordIs moment id (fun row => row.status = .pending ∧ row.debitTxRef = none) ∧ NoWrites moment

/-- What the world looks like in each phase. -/
def Tracked (moment : Moment chains) : DebitPhase → Prop
  | .planning => recordOf moment = none ∧ NoWrites moment
  | .created id => Unwritten moment id
  | .submitted id hash => Unwritten moment id ∧ ∃ event ∈ moment.log, SubmitsDebit hash event
  | .reported id => Unwritten moment id ∧ DebitReported moment
  | .debited id => RecordIs moment id (fun row => row.status = .debited ∧ row.debitTxRef ≠ none) ∧
      DebitReported moment ∧ (∃ event ∈ moment.log, StoresDebit event) ∧
        ¬ ∃ event ∈ moment.log, StoresOutcome event
  | .isOver id => RecordIs moment id (fun row => Accounted row ↔ Booked moment) ∧
      ((∃ event ∈ moment.log, StoresDebit event) → DebitReported moment)

/-- A status that is neither finished nor selected by the sweep. -/
def Unfinished (status : TransferStatus) : Prop :=
  status ≠ .completed ∧ status ≠ .creditPending

theorem not_accounted_of_unfinished {row : Transfer} {status : TransferStatus}
    (isStatus : row.status = status) (unfinished : Unfinished status) : ¬ Accounted row := by
  rintro ⟨_, completed | awaits⟩
  · exact unfinished.1 (isStatus.symm.trans completed)
  · unfold Transfer.awaitsRetry at awaits
    rw [decide_eq_true_eq] at awaits
    exact unfinished.2 (isStatus.symm.trans awaits)

theorem Tracked.accounted_iff {moment : Moment chains} {phase : DebitPhase}
    (tracked : Tracked moment phase) {id : ℕ} {row : Transfer}
    (isRecord : recordOf moment = some id) (found : moment.state.transfers[id]? = some row) :
    Accounted row ↔ Booked moment := by
  have unwritten : ∀ other, Unwritten moment other → (Accounted row ↔ Booked moment) := by
    rintro other ⟨⟨isOther, stored, foundStored, pending, _⟩, notDebited, _⟩
    rw [isRecord] at isOther
    cases isOther
    rw [found] at foundStored
    cases foundStored
    exact iff_of_false (not_accounted_of_unfinished pending ⟨nofun, nofun⟩) fun booked => notDebited booked.debited
  cases phase with
  | planning =>
    have noRecord : recordOf moment = none := tracked.1
    rw [isRecord] at noRecord
    cases noRecord
  | created other => exact unwritten other tracked
  | submitted other hash => exact unwritten other tracked.1
  | reported other => exact unwritten other tracked.1
  | debited other =>
    obtain ⟨⟨isOther, stored, foundStored, debited, _⟩, _, _, noOutcome⟩ := tracked
    rw [isRecord] at isOther
    cases isOther
    rw [found] at foundStored
    cases foundStored
    exact iff_of_false (not_accounted_of_unfinished debited ⟨nofun, nofun⟩) fun booked => noOutcome booked.outcome
  | isOver other =>
    obtain ⟨⟨isOther, stored, foundStored, accounted⟩, _⟩ := tracked
    rw [isRecord] at isOther
    cases isOther
    rw [found] at foundStored
    cases foundStored
    exact accounted

theorem Tracked.found {moment : Moment chains} {phase : DebitPhase}
    (tracked : Tracked moment phase) {id : ℕ} (isRecord : recordOf moment = some id) :
    ∃ row, moment.state.transfers[id]? = some row := by
  have known : ∀ other predicate, RecordIs moment other predicate →
      ∃ row, moment.state.transfers[id]? = some row := by
    rintro other predicate ⟨isOther, row, found, _⟩
    rw [isRecord] at isOther
    cases isOther
    exact ⟨row, found⟩
  cases phase with
  | planning => cases isRecord.symm.trans tracked.1
  | created other => exact known other _ tracked.1
  | submitted other hash => exact known other _ tracked.1.1
  | reported other => exact known other _ tracked.1.1
  | debited other => exact known other _ tracked.1
  | isOver other => exact known other _ tracked.1

/-! ### Steps -/

section Steps

variable {step : Step chains}

theorem recordOf_after (step : Step chains) :
    recordOf step.after = (createdTransfer step.event).or (recordOf step.before) := by
  unfold recordOf
  rw [show step.after.log = step.event :: step.before.log from rfl, List.findSome?_cons]
  cases createdTransfer step.event <;> rfl

theorem exists_after (predicate : Event chains → Prop) :
    (∃ event ∈ step.after.log, predicate event) ↔
      predicate step.event ∨ ∃ event ∈ step.before.log, predicate event :=
  List.exists_mem_cons_iff _ _ _

theorem DebitReported.after (reported : DebitReported step.before) :
    DebitReported step.after := by
  rcases reported with confirmed | ⟨hash, submits, receives⟩
  · exact Or.inl ((exists_after _).mpr (Or.inr confirmed))
  · exact Or.inr ⟨hash, (exists_after _).mpr (Or.inr submits),
      (exists_after _).mpr (Or.inr receives)⟩

/-- An operation that neither creates nor writes a record. -/
def Unwriting : Op → Prop
  | .createTransfer _ => False
  | .updateTransfer _ _ => False
  | _ => True

/-- What a step that writes no record leaves as it was. -/
structure Untouched (step : Step chains) : Prop where
  transfers : step.after.state.transfers = step.before.state.transfers
  record : recordOf step.after = recordOf step.before
  debited : ¬ StoresDebit step.event
  outcome : ¬ StoresOutcome step.event

theorem silent_of_unwriting (event : Event chains) (unwriting : Unwriting event.op) :
    createdTransfer event = none ∧ ¬ StoresDebit event ∧ ¬ StoresOutcome event := by
  obtain ⟨caller, op, fate, reply⟩ := event
  cases op <;> first | exact unwriting.elim | exact ⟨rfl, not_false, not_false⟩

theorem untouched_of_unwriting (unwriting : Unwriting step.op) : Untouched step := by
  obtain ⟨noRecord, noDebit, noOutcome⟩ := silent_of_unwriting step.event unwriting
  refine ⟨?_, ?_, noDebit, noOutcome⟩
  · obtain ⟨before, caller, op, fate⟩ := step
    cases op with
    | createTransfer row => exact unwriting.elim
    | updateTransfer id patch => exact unwriting.elim
    | sendTransaction transaction => cases fate <;> rfl
    | sendAndConfirmTransaction transaction => cases fate <;> rfl
    | waitForReceipt hash => cases fate <;> rfl
    | _ => rfl
  · rw [recordOf_after, noRecord]
    rfl

theorem RecordIs.after (untouched : Untouched step) {id : ℕ} {predicate : Transfer → Prop}
    (holds : RecordIs step.before id predicate) : RecordIs step.after id predicate := by
  obtain ⟨isRecord, row, found, isPredicate⟩ := holds
  refine ⟨untouched.record.trans isRecord, row, ?_, isPredicate⟩
  rw [untouched.transfers]
  exact found

theorem Untouched.storesDebit (untouched : Untouched step) :
    (∃ event ∈ step.after.log, StoresDebit event) ↔
      ∃ event ∈ step.before.log, StoresDebit event := by
  rw [exists_after, or_iff_right untouched.debited]

theorem Untouched.storesOutcome (untouched : Untouched step) :
    (∃ event ∈ step.after.log, StoresOutcome event) ↔
      ∃ event ∈ step.before.log, StoresOutcome event := by
  rw [exists_after, or_iff_right untouched.outcome]

theorem NoWrites.after (noWrites : NoWrites step.before) (debited : ¬ StoresDebit step.event)
    (outcome : ¬ StoresOutcome step.event) : NoWrites step.after := by
  unfold NoWrites
  rw [exists_after, exists_after, or_iff_right debited, or_iff_right outcome]
  exact noWrites

theorem Unwritten.after (untouched : Untouched step) {id : ℕ}
    (unwritten : Unwritten step.before id) : Unwritten step.after id :=
  ⟨unwritten.1.after untouched, unwritten.2.after untouched.debited untouched.outcome⟩

/-- A step that writes no record leaves a phase true of the world. -/
theorem Tracked.after (untouched : Untouched step) {phase : DebitPhase}
    (tracked : Tracked step.before phase) : Tracked step.after phase := by
  cases phase with
  | planning =>
    exact ⟨untouched.record.trans tracked.1, tracked.2.after untouched.debited untouched.outcome⟩
  | created id => exact Unwritten.after untouched tracked
  | submitted id hash =>
    exact ⟨tracked.1.after untouched, (exists_after _).mpr (Or.inr tracked.2)⟩
  | reported id => exact ⟨tracked.1.after untouched, tracked.2.after⟩
  | debited id =>
    obtain ⟨record, reported, debited, noOutcome⟩ := tracked
    refine ⟨record.after untouched, reported.after, untouched.storesDebit.mpr debited, ?_⟩
    rw [untouched.storesOutcome]
    exact noOutcome
  | isOver id =>
    obtain ⟨⟨isRecord, row, found, accounted⟩, reports⟩ := tracked
    have booked : Booked step.after ↔ Booked step.before := by
      refine ⟨fun booked => ?_, fun booked => ?_⟩
      · have debited := untouched.storesDebit.mp booked.debited
        exact ⟨reports debited, debited, untouched.storesOutcome.mp booked.outcome⟩
      · exact ⟨booked.reported.after, untouched.storesDebit.mpr booked.debited,
          untouched.storesOutcome.mpr booked.outcome⟩
    refine ⟨RecordIs.after untouched ⟨isRecord, row, found, accounted.trans booked.symm⟩, ?_⟩
    intro debited
    exact (reports (untouched.storesDebit.mp debited)).after

/-! ### Writes -/

section Writes

variable {before : Moment chains} {caller id : ℕ} {patch : TransferPatch} {delivery : Delivery}

theorem storesDebit_update
    (stores : StoresDebit (Step.event ⟨before, caller, .updateTransfer id patch, delivery⟩)) :
    patch.status = .debited := by
  revert stores
  unfold Step.event
  cases Step.reply (⟨before, caller, .updateTransfer id patch, delivery⟩ : Step chains) with
  | ok stored => exact fun isDebited => isDebited
  | error message => exact fun impossible => impossible.elim

theorem tracked_over {row : Transfer} {status : TransferStatus}
    (isRecord : recordOf before = some id) (found : before.state.transfers[id]? = some row)
    (isStatus : row.status = status) (unfinished : Unfinished status)
    (isPatch : Unfinished patch.status)
    (noOutcome : ¬ ∃ event ∈ before.log, StoresOutcome event)
    (reports : patch.status = .debited ∨ (∃ event ∈ before.log, StoresDebit event) →
      DebitReported before) :
    Tracked (Step.after ⟨before, caller, .updateTransfer id patch, delivery⟩) (.isOver id) := by
  refine ⟨⟨?_, _, row_perform_update found patch delivery, iff_of_false ?_ fun booked => ?_⟩,
    fun debited => ?_⟩
  · rw [recordOf_after]
    exact isRecord
  · split
    · exact not_accounted_of_unfinished rfl isPatch
    · exact not_accounted_of_unfinished isStatus unfinished
  · rcases (exists_after _).mp booked.outcome with ⟨_, completed | pending⟩ | earlier
    · exact isPatch.1 completed
    · exact isPatch.2 pending
    · exact noOutcome earlier
  · rcases (exists_after _).mp debited with stores | earlier
    · exact DebitReported.after (reports (Or.inl (storesDebit_update stores)))
    · exact DebitReported.after (reports (Or.inr earlier))

theorem tracked_failed (unwritten : Unwritten before id) (failed : patch.status = .failed) :
    Tracked (Step.after ⟨before, caller, .updateTransfer id patch, delivery⟩) (.isOver id) := by
  obtain ⟨⟨isRecord, row, found, pending, _⟩, noDebit, noOutcome⟩ := unwritten
  refine tracked_over isRecord found pending ⟨nofun, nofun⟩ ?_ noOutcome ?_
  · rw [failed]
    exact ⟨nofun, nofun⟩
  · rw [failed]
    rintro (impossible | earlier)
    · cases impossible
    · exact absurd earlier noDebit

theorem tracked_debited (unwritten : Unwritten before id) (reported : DebitReported before)
    (debited : patch.status = .debited) (isSet : patch.debitTxRef ≠ none) :
    Tracked (Step.after ⟨before, caller, .updateTransfer id patch, delivery⟩)
      (if delivery = .answered then .debited id else .isOver id) := by
  obtain ⟨⟨isRecord, row, found, pending, unset⟩, noDebit, noOutcome⟩ := unwritten
  split
  · rename_i answered
    subst answered
    have reply : Step.reply (⟨before, caller, .updateTransfer id patch, .answered⟩ : Step chains) =
        .ok ⟨id, patch.apply row⟩ := reply_perform_update found patch .answered
    refine ⟨⟨?_, _, row_perform_update found patch .answered, debited, ?_⟩, reported.after,
      (exists_after _).mpr (Or.inl ?_), ?_⟩
    · rw [recordOf_after]
      exact isRecord
    · show patch.debitTxRef.or row.debitTxRef ≠ none
      rw [Ne, Option.or_eq_none_iff, not_and]
      exact fun none => absurd none isSet
    · unfold Step.event
      rw [reply]
      exact debited
    · rw [exists_after]
      rintro (⟨_, completed | pending⟩ | earlier)
      · rw [debited] at completed
        cases completed
      · rw [debited] at pending
        cases pending
      · exact noOutcome earlier
  · refine tracked_over isRecord found pending ⟨nofun, nofun⟩ ?_ noOutcome fun _ => reported
    rw [debited]
    exact ⟨nofun, nofun⟩

theorem tracked_outcome (tracked : Tracked before (.debited id))
    (outcome : patch.status = .completed ∨ patch.status = .creditPending) :
    Tracked (Step.after ⟨before, caller, .updateTransfer id patch, delivery⟩) (.isOver id) := by
  obtain ⟨⟨isRecord, row, found, debited, isSet⟩, reported, stored, noOutcome⟩ := tracked
  have isRecordAfter : recordOf (Step.after
      ⟨before, caller, .updateTransfer id patch, delivery⟩) = some id := by
    rw [recordOf_after]
    exact isRecord
  refine ⟨⟨isRecordAfter, _, row_perform_update found patch delivery, ?_⟩,
    fun _ => reported.after⟩
  by_cases applies : delivery.Applies
  · rw [if_pos applies]
    refine iff_of_true ⟨?_, ?_⟩ ⟨reported.after, (exists_after _).mpr (Or.inr stored),
      (exists_after _).mpr (Or.inl ⟨applies, outcome⟩)⟩
    · show patch.debitTxRef.or row.debitTxRef ≠ none
      rw [Ne, Option.or_eq_none_iff, not_and]
      exact fun _ => isSet
    · exact outcome.imp_right fun pending => decide_eq_true pending
  · rw [if_neg applies]
    refine iff_of_false (not_accounted_of_unfinished debited ⟨nofun, nofun⟩) fun booked => ?_
    rcases (exists_after _).mp booked.outcome with ⟨isApplied, _⟩ | earlier
    · exact applies isApplied
    · exact noOutcome earlier

/-- The record is created, if its creator hears of it. -/
theorem tracked_created {row : Transfer} (creation : Creation)
    (tracked : Tracked before .planning) (pending : row.status = .pending)
    (unset : row.debitTxRef = none) :
    Tracked (Step.after ⟨before, caller, .createTransfer row, creation⟩)
      (if creation.delivery = .answered then .created before.state.transfers.length
        else .planning) := by
  obtain ⟨delivery, time⟩ := creation
  have noWrites : NoWrites (Step.after ⟨before, caller, .createTransfer row, ⟨delivery, time⟩⟩) :=
    tracked.2.after not_false not_false
  cases delivery with
  | answered =>
    refine ⟨⟨?_, { row with requestedAt := time }, List.getElem?_concat_length, pending, unset⟩,
      noWrites⟩
    rw [recordOf_after]
    rfl
  | refused message =>
    refine ⟨?_, noWrites⟩
    rw [recordOf_after]
    exact tracked.1
  | lost message =>
    refine ⟨?_, noWrites⟩
    rw [recordOf_after]
    exact tracked.1

end Writes

/-! ### One step -/

section Keeps

variable {before : Moment chains} {caller : ℕ} {phase : DebitPhase}

theorem tracked_update {id : ℕ} {patch : TransferPatch} {delivery : Delivery}
    (permitted : PermitsDebit phase (.updateTransfer id patch)) (tracked : Tracked before phase) :
    Tracked (Step.after ⟨before, caller, .updateTransfer id patch, delivery⟩)
      (nextDebitPhase phase (.updateTransfer id patch)
        (Step.reply (⟨before, caller, .updateTransfer id patch, delivery⟩ : Step chains))) := by
  set step : Step chains := ⟨before, caller, .updateTransfer id patch, delivery⟩ with stepIs
  have written : nextDebitPhase phase (.updateTransfer id patch) step.reply =
      phase.write step.reply.toBool := by
    cases step.reply <;> rfl
  rw [written]
  cases phase with
  | created record =>
    obtain ⟨rfl, failed⟩ := permitted
    exact tracked_failed tracked failed
  | reported record =>
    obtain ⟨rfl, debited, isSet⟩ := permitted
    obtain ⟨⟨_, row, found, _⟩, _⟩ := tracked.1
    have reply : step.reply = delivery.reply ⟨id, patch.apply row⟩ :=
      reply_perform_update found patch delivery
    have next : Tracked step.after (if delivery = .answered then .debited id else .isOver id) :=
      tracked_debited tracked.1 tracked.2 debited isSet
    rw [reply]
    cases delivery with
    | answered => exact next
    | refused message => exact next
    | lost message => exact next
  | debited record =>
    obtain ⟨rfl, outcome⟩ := permitted
    exact tracked_outcome tracked outcome
  | planning => exact permitted.elim
  | submitted record hash => exact permitted.elim
  | isOver record => exact permitted.elim

theorem tracked_send {transaction : Transaction} {submission : Submission}
    (tracked : Tracked before phase) :
    Tracked (Step.after ⟨before, caller, .sendTransaction transaction, submission⟩)
      (nextDebitPhase phase (.sendTransaction transaction)
        (Step.reply (⟨before, caller, .sendTransaction transaction, submission⟩ : Step chains))) := by
  set step : Step chains := ⟨before, caller, .sendTransaction transaction, submission⟩ with stepIs
  have untouched : Untouched step := untouched_of_unwriting trivial
  have same : Tracked step.after phase := Tracked.after untouched tracked
  cases reply : step.reply with
  | error message => exact same
  | ok hash =>
    show Tracked step.after (phase.submit transaction.purpose hash)
    cases phase with
    | created id =>
      unfold DebitPhase.submit
      simp only
      split
      · rename_i isDebit
        refine ⟨same, (exists_after _).mpr (Or.inl ?_)⟩
        unfold Step.event
        rw [reply]
        exact ⟨rfl, id, isDebit⟩
      · exact same
    | _ => exact same

theorem tracked_confirm {transaction : Transaction} {delivery : Delivery}
    (tracked : Tracked before phase) :
    Tracked (Step.after ⟨before, caller, .sendAndConfirmTransaction transaction, delivery⟩)
      (nextDebitPhase phase (.sendAndConfirmTransaction transaction)
        (Step.reply (⟨before, caller, .sendAndConfirmTransaction transaction, delivery⟩ :
          Step chains))) := by
  set step : Step chains := ⟨before, caller, .sendAndConfirmTransaction transaction, delivery⟩
    with stepIs
  have untouched : Untouched step := untouched_of_unwriting trivial
  have same : Tracked step.after phase := Tracked.after untouched tracked
  cases reply : step.reply with
  | error message => exact same
  | ok hash =>
    show Tracked step.after (phase.confirm transaction.purpose)
    cases phase with
    | created id =>
      unfold DebitPhase.confirm
      simp only
      split
      · rename_i isDebit
        refine ⟨same, Or.inl ((exists_after _).mpr (Or.inl ?_))⟩
        unfold Step.event
        rw [reply]
        exact ⟨id, isDebit⟩
      · exact same
    | _ => exact same

theorem tracked_receipt {sent : ℕ} {receipt : Receipt} (tracked : Tracked before phase) :
    Tracked (Step.after ⟨before, caller, .waitForReceipt sent, receipt⟩)
      (nextDebitPhase phase (.waitForReceipt sent)
        (Step.reply (⟨before, caller, .waitForReceipt sent, receipt⟩ : Step chains))) := by
  set step : Step chains := ⟨before, caller, .waitForReceipt sent, receipt⟩ with stepIs
  have untouched : Untouched step := untouched_of_unwriting trivial
  have same : Tracked step.after phase := Tracked.after untouched tracked
  show Tracked step.after (phase.receive sent step.reply)
  cases phase with
  | submitted id hash =>
    unfold DebitPhase.receive
    simp only
    split
    · rename_i arrived
      refine ⟨same.1, Or.inr ⟨hash, same.2, (exists_after _).mpr (Or.inl ?_)⟩⟩
      unfold Step.event
      rw [arrived.1]
      exact arrived.2
    · exact same.1
  | _ => exact same

theorem tracked_keeps : debiting.Keeps (fun step => step.caller = 0)
    fun moment => Tracked moment (debiting.phase moment 0) := by
  intro step permitted isCaller tracked
  have next : debiting.phase step.after 0 =
      nextDebitPhase (debiting.phase step.before 0) step.op step.reply := by
    rw [← isCaller]
    exact phase_after_self step
  rw [isCaller] at permitted
  show Tracked step.after (debiting.phase step.after 0)
  rw [next]
  obtain ⟨before, caller, op, fate⟩ := step
  cases op with
  | createTransfer row =>
    obtain ⟨isPlanning, pending, unset⟩ := permitted
    have planned : Tracked before .planning := isPlanning ▸ tracked
    have created : Tracked (Step.after ⟨before, caller, .createTransfer row, fate⟩) _ :=
      tracked_created fate planned pending unset
    rw [isPlanning]
    obtain ⟨delivery, time⟩ := fate
    cases delivery <;> exact created
  | updateTransfer id patch => exact tracked_update permitted tracked
  | sendTransaction transaction => exact tracked_send tracked
  | sendAndConfirmTransaction transaction => exact tracked_confirm tracked
  | waitForReceipt hash => exact tracked_receipt tracked
  | _ =>
    refine Tracked.after (untouched_of_unwriting ?_) tracked
    exact trivial

end Keeps

end Steps

/-! ### The call -/

/-- A phase that does not wait for a receipt. -/
def DebitPhase.Settled : DebitPhase → Prop
  | submitted _ _ => False
  | _ => True

theorem debiting_errands {phase : DebitPhase} (settled : phase.Settled) (op : Op)
    (errand : Errand op) : debiting.Neutral phase op := by
  have submitted : ∀ (purpose : Purpose) (hash : ℕ), purpose.Incidental →
      phase.submit purpose hash = phase ∧ phase.confirm purpose = phase := by
    intro purpose hash incidental
    cases phase with
    | created id =>
      have notDebit : purpose ≠ .debit id := by
        rintro rfl
        exact incidental
      exact ⟨if_neg notDebit, if_neg notDebit⟩
    | _ => exact ⟨rfl, rfl⟩
  have received : ∀ sent receipt, phase.receive sent receipt = phase := by
    intro sent receipt
    cases phase with
    | submitted id hash => exact settled.elim
    | _ => rfl
  cases op with
  | createTransfer row => exact errand.elim
  | findTransfer check id userId => exact errand.elim
  | findPendingCredits limit => exact errand.elim
  | updateTransfer id patch => exact errand.elim
  | sendTransaction transaction =>
    refine ⟨trivial, fun reply => ?_⟩
    cases reply with
    | ok hash => exact (submitted _ hash errand).1
    | error message => rfl
  | sendAndConfirmTransaction transaction =>
    refine ⟨trivial, fun reply => ?_⟩
    cases reply with
    | ok hash => exact (submitted _ hash errand).2
    | error message => rfl
  | waitForReceipt hash => exact ⟨trivial, fun reply => received hash reply⟩
  | _ => exact ⟨trivial, fun _ => rfl⟩

theorem debiting_paysDebit (id : ℕ) :
    PaysFrom debiting (.created id) (.debit id) (fun reached => reached = .reported id)
      fun reached => reached = .created id where
  errands := debiting_errands trivial
  thrown := rfl
  submits transaction reverted isDebit := by
    refine Follows.moves (.submitted id) trivial (fun _ => if_pos isDebit) (fun _ => rfl)
      fun hash => ?_
    have received : debiting.Follows (.submitted id hash) (await (.waitForReceipt hash))
        (ends (fun receipt reached =>
          reached = if receipt = some true then .reported id else .created id)
          fun reached => reached = .created id) := by
      refine Follows.perform trivial (fun receipt => ?_) fun message => ?_
      · show DebitPhase.receive hash (.ok receipt) (.submitted id hash) = _
        simp only [DebitPhase.receive, Except.ok.injEq, and_true]
      · show DebitPhase.receive hash (.error message) (.submitted id hash) = _
        simp only [DebitPhase.receive, reduceCtorEq, false_and, if_false]
    refine received.bind ?_
    rintro receipt _ rfl
    refine Follows.throwIf (fun missing => if_neg missing) fun arrived => ?_
    exact if_pos (not_not.mp arrived)
  confirms transaction isDebit :=
    Follows.perform trivial (fun _ => if_pos isDebit) fun _ => rfl

theorem debiting_paysCredit (id : ℕ) :
    PaysFrom debiting (.debited id) (.credit id) (fun reached => reached = .debited id)
      fun reached => reached = .debited id where
  errands := debiting_errands trivial
  thrown := rfl
  submits transaction reverted _ := by
    refine follows_submitOnBsc ?_ ?_
    · exact Follows.perform trivial (fun _ => rfl) fun _ => rfl
    · rintro reached rfl
      exact ⟨rfl, debiting_errands trivial⟩
  confirms transaction _ := Follows.perform trivial (fun _ => rfl) fun _ => rfl

theorem debiting_runDebitLeg (plan : Plan) (id : ℕ) :
    debiting.Follows (.created id) (runDebitLeg plan id)
      (ends (fun _ reached => reached = .debited id) fun _ => True) := by
  have debited : debiting.Follows (.created id) (sendDebit plan id)
      (ends (fun _ reached => reached = .reported id)
        fun reached => reached = .created id) := by
    unfold sendDebit
    split
    · exact (debiting_paysDebit id).sendBscToken _ _ _ _
    · exact (debiting_paysDebit id).sendSolToken _ _ _ _
  refine Follows.bind (debited.recover ?_) ?_
  · rintro message reached rfl
    have stored : debiting.Follows (.created id) (await (.updateTransfer id (failedPatch message)))
        anywhere :=
      Follows.perform ⟨rfl, rfl⟩ (fun _ => trivial) fun _ => trivial
    exact stored.bind fun _ _ _ => trivial
  · rintro debitTxRef reached rfl
    exact Follows.moves (fun _ => .debited id) ⟨rfl, rfl, Option.some_ne_none _⟩ (fun _ => rfl)
      (fun _ => trivial) fun _ => rfl

theorem debiting_executeCrossChainTransfer (settings : Settings) (userId : String)
    (params : TransferParams) :
    debiting.Follows .planning (executeCrossChainTransfer settings userId params) anywhere := by
  refine follows_after_errands (debiting_errands trivial) (errands_planTransfer _ _ _) trivial
    fun plan => ?_
  refine Follows.moves (fun record => .created record.id) ⟨rfl, rfl, rfl⟩ (fun _ => rfl)
    (fun _ => trivial) fun record => ?_
  refine (debiting_runDebitLeg plan record.id).bind ?_
  rintro debitTxRef _ rfl
  have credited : debiting.Follows (.debited record.id)
      (runCreditLeg plan.route plan.bridgeSourceAmount plan.quote.creditAmount plan.wallets
        record.id)
      (ends (fun _ reached => reached = .debited record.id)
        fun reached => reached = .debited record.id) := by
    refine (debiting_paysCredit record.id).runCreditLeg (fun _ _ => ?_) ?_ _ _ _ _
    · exact Follows.perform trivial (fun _ => rfl) fun _ => rfl
    · rintro reached rfl
      exact ⟨rfl, debiting_errands trivial⟩
  refine Follows.bind (credited.recover ?_) ?_
  · rintro message _ rfl
    have stored : debiting.Follows (.debited record.id)
        (await (.updateTransfer record.id (creditPendingPatch message))) anywhere :=
      Follows.perform ⟨rfl, Or.inr rfl⟩ (fun _ => trivial) fun _ => trivial
    exact stored.bind fun _ _ _ => trivial
  · rintro creditTxRef _ rfl
    refine Follows.moves (fun _ => .isOver record.id) ⟨rfl, Or.inl rfl⟩ (fun _ => rfl)
      (fun _ => trivial) fun updated => ?_
    exact follows_after_errands (debiting_errands trivial)
      (errands_sweepTransferFeeToTreasury _ _ _ _ _) trivial fun _ => trivial

/-! ### Runs -/

/-- The server while one user's transfer runs. -/
def transferSystem (settings : Settings) (ledger : Ledger) (userId : String)
    (params : TransferParams) : System chains TransferResult :=
  System.solo ledger (executeCrossChainTransfer settings userId params)

/-- However far the call has come, its phase says what the record is worth. -/
theorem tracked_run (settings : Settings) (ledger : Ledger) (userId : String)
    (params : TransferParams) (turns : List (Turn chains)) :
    ∃ phase, Tracked ((transferSystem settings ledger userId params).run turns).moment phase := by
  have follows : ∀ caller call, (transferSystem settings ledger userId params).calls[caller]? =
      some call → debiting.Follows (debiting.phase ⟨ledger, []⟩ caller) call anywhere := by
    intro caller call found
    have isCall : call ∈ [executeCrossChainTransfer settings userId params] :=
      List.mem_of_getElem? found
    rw [List.mem_singleton.mp isCall]
    exact debiting_executeCrossChainTransfer settings userId params
  have alone : ∀ step ∈ (transferSystem settings ledger userId params).steps turns,
      step.caller = 0 := fun step member =>
    Nat.lt_one_iff.mp (System.caller_lt_of_mem_steps member)
  have noEvent : ∀ predicate : Event chains → Prop, ¬ ∃ event ∈ [], predicate event := by
    rintro predicate ⟨event, member, _⟩
    cases member
  have start : Tracked ⟨ledger, []⟩ (debiting.phase ⟨ledger, []⟩ 0) :=
    ⟨rfl, noEvent _, noEvent _⟩
  obtain ⟨holds, _⟩ := sound tracked_keeps start follows turns alone
  exact ⟨_, holds.invariant⟩

/-- However far the call has come and whatever has failed: no debit is orphaned exactly when a
landed debit has been booked. -/
theorem noOrphan_iff_booked (settings : Settings) (ledger : Ledger) (userId : String)
    (params : TransferParams) (turns : List (Turn chains)) :
    let moment := ((transferSystem settings ledger userId params).run turns).moment
    NoOrphan moment ↔ ∀ id, recordOf moment = some id → DebitLanded moment id → Booked moment := by
  intro moment
  obtain ⟨phase, tracked⟩ := tracked_run settings ledger userId params turns
  constructor
  · intro noOrphan id isRecord landed
    obtain ⟨row, found⟩ := tracked.found isRecord
    rw [← tracked.accounted_iff isRecord found]
    exact (noOrphan id row isRecord found).2 landed
  · intro booked id row isRecord found
    have accounted : DebitLanded moment id → Accounted row := fun landed =>
      (tracked.accounted_iff isRecord found).mpr (booked id isRecord landed)
    exact ⟨fun failed landed =>
      not_accounted_of_unfinished failed ⟨nofun, nofun⟩ (accounted landed), accounted⟩

/-- The debit is stored only if the chain has reported it. -/
def DebitBacked (moment : Moment chains) : Prop :=
  (∃ event ∈ moment.log, StoresDebit event) → DebitReported moment

/-- Nothing fails but the wait for receipts. -/
def receiptTimeout : (op : Op) → Fate op
  | .waitForReceipt _ => .failed "timeout exceeded"
  | op => smooth op

/-- A debit that lands and is reported as failed is orphaned: its record is FAILED. -/
theorem not_noOrphan :
    ¬ ∀ (settings : Settings) (ledger : Ledger) (userId : String) (params : TransferParams)
      (turns : List (Turn chains)),
      NoOrphan ((transferSystem settings ledger userId params).run turns).moment := by
  intro always
  set moment := ((transferSystem exampleSettings ⟨[], []⟩ "alice" usdtTransfer).run
    (List.replicate 20 ⟨0, receiptTimeout⟩)).moment with isMoment
  have isRecord : recordOf moment = some 0 := by decide +kernel
  have isFailed : moment.state.transfers[0]?.map Transfer.status = some .failed := by
    decide +kernel
  have landed : moment.state.landedFor (.debit 0) ≠ [] := by decide +kernel
  obtain ⟨row, found, failed⟩ := Option.map_eq_some_iff.mp isFailed
  exact (always exampleSettings ⟨[], []⟩ "alice" usdtTransfer
    (List.replicate 20 ⟨0, receiptTimeout⟩) 0 row isRecord found).1 failed landed

end GdslExchange.CrossChain
