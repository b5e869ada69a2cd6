/-
This file settles when the credit of a cross-chain transfer is paid at most
once. A caller pays after a status check (or after it has stored the debit
itself) and reports the outcome only afterwards, so a second check in between,
or after a payment that was reported as an error, pays again. The runs in which
every check finds no other payer and no payment of the record pay once.
-/

import GdslExchange.CrossChain.Errands

namespace GdslExchange.CrossChain

open Async Async.Program
open Protocol (Follows anywhere ends phase_of_silent phases_after sound)

/-! ### Phases of a caller -/

/-- Where a caller stands with a record: it has created it, its status check has let it on, or
it may pay. -/
inductive Phase where
  | idle
  | created (id : ℕ)
  | checked (record : Stored Transfer)
  | unpaid (id : ℕ)

namespace Phase

/-- The caller may pay the record's credit without checking its status again. -/
def MayPay : Phase → ℕ → Prop
  | checked record, id => record.id = id
  | unpaid record, id => record = id
  | _, _ => False

/-- A caller whose wallets or prices fail after the check gives the credit up. -/
def abandon : Phase → Phase
  | checked _ => idle
  | phase => phase

/-- A caller that submits a credit does not submit another. -/
def submit (phase : Phase) : Purpose → Phase
  | .credit _ => idle
  | _ => phase

end Phase

def creditRoute (settings : Settings) (row : Transfer) : Except String Route :=
  resolveCrossChainRoute settings row.direction row.asset
    (some (row.destAsset.getD row.asset))

/-- The status check lets the credit leg go on. -/
def Passes (settings : Settings) (row : Transfer) : Prop :=
  row.status ≠ .completed ∧ row.debitTxRef ≠ none ∧
    (creditRoute settings row).toOption.isSome ∧ (operatorWallets settings).isSome

instance (settings : Settings) (row : Transfer) : Decidable (Passes settings row) := by
  unfold Passes
  infer_instance

def bridgeSource (settings : Settings) (row : Transfer) (price : Option ℚ) : ℚ :=
  match creditRoute settings row with
  | .ok route => computeBridgeSourceAmount route row.amount (price.getD 0)
  | .error _ => 0

def Phase.priced (settings : Settings) (price : Option ℚ) : Phase → Phase
  | checked record =>
    if bridgeSource settings record.row price ≤ 0 then idle else unpaid record.id
  | phase => phase

def nextPhase (settings : Settings) (phase : Phase) (op : Op)
    (reply : Except String (Result op)) : Phase :=
  match op, reply with
  | .createTransfer _, .ok stored => .created stored.id
  | .createTransfer _, .error _ => .idle
  | .updateTransfer id patch, .ok _ => if patch.status = .debited then .unpaid id else .idle
  | .updateTransfer _ _, .error _ => .idle
  | .findTransfer .creditLeg _ _, .ok (some record) =>
    if Passes settings record.row then .checked record else .idle
  | .findTransfer .creditLeg _ _, _ => .idle
  | .getPersonalSigner _, .error _ => phase.abandon
  | .getSolanaKeypair _, .error _ => phase.abandon
  | .fetchLegUsdPrice _, .ok price => phase.priced settings price
  | .fetchLegUsdPrice _, .error _ => phase.abandon
  | .sendTransaction transaction, _ => phase.submit transaction.purpose
  | .sendAndConfirmTransaction transaction, _ => phase.submit transaction.purpose
  | _, _ => phase

/-- A credit is paid by a caller that may pay it, and a debit is stored by the caller that has
created the record. -/
def Permits (phase : Phase) : Op → Prop
  | .createTransfer row => row.debitTxRef = none
  | .updateTransfer id patch =>
    patch.status = .debited ∨ patch.debitTxRef ≠ none →
      phase = .created id ∧ patch.debitTxRef ≠ none
  | .sendTransaction transaction =>
    ∀ id, transaction.purpose = .credit id → phase = .unpaid id
  | .sendAndConfirmTransaction transaction =>
    ∀ id, transaction.purpose = .credit id → phase = .unpaid id
  | _ => True

/-- How the calls go about a credit. -/
def crediting (settings : Settings) : Protocol chains Phase where
  start := .idle
  permits := Permits
  next := nextPhase settings

/-! ### The property and the condition -/

/-- The landed credits of a record: operator payments and bridge submissions. -/
def Ledger.credits (ledger : Ledger) (id : ℕ) : List Submitted := ledger.landedFor (.credit id)

/-- No record's credit has been paid twice. -/
def CreditedAtMostOnce (ledger : Ledger) : Prop := ∀ id, (ledger.credits id).length ≤ 1

/-- The record that a status check of the credit leg lets through. -/
def letThrough (settings : Settings) : Event chains → Option (Stored Transfer)
  | ⟨_, .findTransfer .creditLeg _ _, _, .ok (some record)⟩ =>
    if Passes settings record.row then some record else none
  | _ => none

/-- A status check that lets a credit through finds no other caller that may still pay it, and
no landed payment of it. -/
def ChecksAlone (settings : Settings) (step : Step chains) : Prop :=
  ∀ record, letThrough settings step.event = some record →
    (∀ other, other ≠ step.caller →
      ¬ ((crediting settings).phase step.before other).MayPay record.id) ∧
    step.before.state.credits record.id = []

/-! ### What keeps credits single -/

/-- A row whose debit has been stored. -/
def Ledger.Debited (ledger : Ledger) (id : ℕ) : Prop :=
  ∃ row, ledger.transfers[id]? = some row ∧ row.debitTxRef ≠ none

/-- A row whose debit has not been stored. -/
def Ledger.Undebited (ledger : Ledger) (id : ℕ) : Prop :=
  ∃ row, ledger.transfers[id]? = some row ∧ row.debitTxRef = none

/-- Who may pay a credit is the only one, and it has not been paid; a record is under its
creator until its debit is stored. -/
structure Orderly (ledger : Ledger) (phases : ℕ → Phase) : Prop where
  atMostOnce : CreditedAtMostOnce ledger
  unpaid : ∀ caller id, (phases caller).MayPay id → ledger.credits id = [] ∧ ledger.Debited id
  single : ∀ caller other id, (phases caller).MayPay id → (phases other).MayPay id →
    caller = other
  created : ∀ caller id, phases caller = .created id →
    ledger.credits id = [] ∧ ledger.Undebited id
  owner : ∀ caller other id, phases caller = .created id → phases other = .created id →
    caller = other
  unborn : ∀ id, ledger.transfers.length ≤ id → ledger.credits id = []

theorem not_debited_of_undebited {ledger : Ledger} {id : ℕ} (undebited : ledger.Undebited id) :
    ¬ ledger.Debited id := by
  rintro ⟨row, found, isDebited⟩
  obtain ⟨other, foundOther, notDebited⟩ := undebited
  rw [found] at foundOther
  cases foundOther
  exact isDebited notDebited

section Moves

variable {ledger after : Ledger} {phases : ℕ → Phase} {caller : ℕ}

/-- The world after a step that stores no debit and lands no credit. -/
structure Undisturbed (ledger after : Ledger) : Prop where
  credits : ∀ id, after.credits id = ledger.credits id
  debited : ∀ id, ledger.Debited id → after.Debited id
  undebited : ∀ id, ledger.Undebited id → after.Undebited id
  length : ledger.transfers.length ≤ after.transfers.length

theorem Undisturbed.refl (ledger : Ledger) : Undisturbed ledger ledger :=
  ⟨fun _ => rfl, fun _ holds => holds, fun _ holds => holds, le_rfl⟩

variable {next : Phase} {id : ℕ}

theorem mayPay_update {other : ℕ} (mayPay : (Function.update phases caller next other).MayPay id) :
    other = caller ∧ next.MayPay id ∨ other ≠ caller ∧ (phases other).MayPay id := by
  by_cases same : other = caller
  · rw [same, Function.update_self] at mayPay
    exact Or.inl ⟨same, mayPay⟩
  · rw [Function.update_of_ne same] at mayPay
    exact Or.inr ⟨same, mayPay⟩

theorem created_update {other : ℕ}
    (isCreated : Function.update phases caller next other = .created id) :
    other = caller ∧ next = .created id ∨ other ≠ caller ∧ phases other = .created id := by
  by_cases same : other = caller
  · rw [same, Function.update_self] at isCreated
    exact Or.inl ⟨same, isCreated⟩
  · rw [Function.update_of_ne same] at isCreated
    exact Or.inr ⟨same, isCreated⟩

/-- A caller that gains nothing over a world that is not disturbed. -/
theorem Orderly.move (orderly : Orderly ledger phases) (undisturbed : Undisturbed ledger after)
    (mayPay : ∀ id, next.MayPay id → (phases caller).MayPay id)
    (isCreated : ∀ id, next = .created id → phases caller = .created id) :
    Orderly after (Function.update phases caller next) := by
  have mayPayBefore : ∀ other id, (Function.update phases caller next other).MayPay id →
      (phases other).MayPay id := by
    intro other id pays
    rcases mayPay_update pays with ⟨same, pays⟩ | ⟨_, pays⟩
    · rw [same]
      exact mayPay id pays
    · exact pays
  have createdBefore : ∀ other id, Function.update phases caller next other = .created id →
      phases other = .created id := by
    intro other id creates
    rcases created_update creates with ⟨same, creates⟩ | ⟨_, creates⟩
    · rw [same]
      exact isCreated id creates
    · exact creates
  refine ⟨fun id => ?_, ?_, ?_, ?_, ?_, ?_⟩
  · rw [undisturbed.credits]
    exact orderly.atMostOnce id
  · intro other id pays
    obtain ⟨none, debited⟩ := orderly.unpaid other id (mayPayBefore other id pays)
    exact ⟨(undisturbed.credits id).trans none, undisturbed.debited id debited⟩
  · intro first second id paysFirst paysSecond
    exact orderly.single first second id (mayPayBefore first id paysFirst)
      (mayPayBefore second id paysSecond)
  · intro other id creates
    obtain ⟨none, undebited⟩ := orderly.created other id (createdBefore other id creates)
    exact ⟨(undisturbed.credits id).trans none, undisturbed.undebited id undebited⟩
  · intro first second id createsFirst createsSecond
    exact orderly.owner first second id (createdBefore first id createsFirst)
      (createdBefore second id createsSecond)
  · intro id outside
    rw [undisturbed.credits]
    exact orderly.unborn id (undisturbed.length.trans outside)

theorem undisturbed_append (row : Transfer) :
    Undisturbed ledger { ledger with transfers := ledger.transfers ++ [row] } where
  credits _ := rfl
  debited _ := fun ⟨stored, found, holds⟩ =>
    ⟨stored, List.getElem?_append_left (List.getElem?_eq_some_iff.mp found).1 ▸ found, holds⟩
  undebited _ := fun ⟨stored, found, holds⟩ =>
    ⟨stored, List.getElem?_append_left (List.getElem?_eq_some_iff.mp found).1 ▸ found, holds⟩
  length := by
    rw [List.length_append]
    exact Nat.le_add_right _ _

variable {target : ℕ} {row : Transfer}

theorem getElem?_update {updated : Transfer} (found : ledger.transfers[id]? = some row) :
    (ledger.transfers.set id updated)[target]? =
      if target = id then some updated else ledger.transfers[target]? := by
  have bound : id < ledger.transfers.length := (List.getElem?_eq_some_iff.mp found).1
  by_cases same : target = id
  · rw [same, if_pos rfl, List.getElem?_set_self bound]
  · rw [if_neg same, List.getElem?_set_ne (Ne.symm same)]

variable {patch : TransferPatch}

theorem debited_update (found : ledger.transfers[id]? = some row) (debited : ledger.Debited target) :
    Ledger.Debited { ledger with transfers := ledger.transfers.set id (patch.apply row) }
      target := by
  obtain ⟨stored, foundStored, holds⟩ := debited
  unfold Ledger.Debited
  rw [getElem?_update found]
  by_cases same : target = id
  · rw [if_pos same]
    rw [same, found] at foundStored
    cases foundStored
    refine ⟨_, rfl, ?_⟩
    show patch.debitTxRef.or row.debitTxRef ≠ none
    rw [Ne, Option.or_eq_none_iff, not_and]
    exact fun _ => holds
  · rw [if_neg same]
    exact ⟨stored, foundStored, holds⟩

theorem undebited_update (found : ledger.transfers[id]? = some row)
    (unset : target = id → patch.debitTxRef = none) (undebited : ledger.Undebited target) :
    Ledger.Undebited { ledger with transfers := ledger.transfers.set id (patch.apply row) }
      target := by
  obtain ⟨stored, foundStored, holds⟩ := undebited
  unfold Ledger.Undebited
  rw [getElem?_update found]
  by_cases same : target = id
  · rw [if_pos same]
    rw [same, found] at foundStored
    cases foundStored
    exact ⟨_, rfl, Option.or_eq_none_iff.mpr ⟨unset same, holds⟩⟩
  · rw [if_neg same]
    exact ⟨stored, foundStored, holds⟩

theorem undisturbed_update (found : ledger.transfers[id]? = some row)
    (unset : patch.debitTxRef = none) :
    Undisturbed ledger
      { ledger with transfers := ledger.transfers.set id (patch.apply row) } where
  credits _ := rfl
  debited _ := debited_update found
  undebited _ := undebited_update found fun _ => unset
  length := by rw [List.length_set]

theorem credits_submit (transaction : Transaction) (landed : Bool) (id : ℕ) :
    (ledger.submit transaction landed).credits id = ledger.credits id ++
      if landed ∧ transaction.purpose = .credit id then [⟨transaction, landed⟩] else [] := by
  unfold Ledger.credits Ledger.landedFor Ledger.submit
  rw [List.filter_append]
  by_cases counts : landed ∧ transaction.purpose = .credit id
  · rw [if_pos counts, List.filter_cons_of_pos (by simpa using counts), List.filter_nil]
  · rw [if_neg counts, List.filter_cons_of_neg (by simpa using counts), List.filter_nil]

variable {transaction : Transaction}

theorem credits_submit_of_ne {landed : Bool}
    (different : ¬ (landed ∧ transaction.purpose = .credit id)) :
    (ledger.submit transaction landed).credits id = ledger.credits id := by
  rw [credits_submit, if_neg different, List.append_nil]

theorem undisturbed_submit {landed : Bool}
    (uncredited : ∀ id, ¬ (landed ∧ transaction.purpose = .credit id)) :
    Undisturbed ledger (ledger.submit transaction landed) where
  credits id := credits_submit_of_ne (uncredited id)
  debited _ holds := holds
  undebited _ holds := holds
  length := le_rfl

theorem Ledger.Debited.lt (debited : ledger.Debited id) :
    id < ledger.transfers.length := by
  obtain ⟨row, found, _⟩ := debited
  exact (List.getElem?_eq_some_iff.mp found).1

section

variable (orderly : Orderly ledger phases)
include orderly

/-- A new record is its creator's. -/
theorem Orderly.create (unset : row.debitTxRef = none) :
    Orderly { ledger with transfers := ledger.transfers ++ [row] }
      (Function.update phases caller (.created ledger.transfers.length)) := by
  have undisturbed : Undisturbed ledger { ledger with transfers := ledger.transfers ++ [row] } :=
    undisturbed_append row
  have moved : Orderly { ledger with transfers := ledger.transfers ++ [row] }
      (Function.update phases caller .idle) :=
    orderly.move undisturbed (fun _ impossible => impossible.elim) nofun
  have mayPay : ∀ other id, (Function.update phases caller
      (.created ledger.transfers.length) other).MayPay id →
        (Function.update phases caller .idle other).MayPay id := by
    intro other id pays
    rcases mayPay_update pays with ⟨_, impossible⟩ | ⟨different, pays⟩
    · exact impossible.elim
    · rw [Function.update_of_ne different]
      exact pays
  have older : ∀ other id, phases other = .created id → id ≠ ledger.transfers.length := by
    intro other id creates
    obtain ⟨_, stored, found, _⟩ := orderly.created other id creates
    exact Nat.ne_of_lt (List.getElem?_eq_some_iff.mp found).1
  refine ⟨moved.atMostOnce, fun other id pays => moved.unpaid other id (mayPay other id pays),
    fun first second id paysFirst paysSecond =>
      moved.single first second id (mayPay first id paysFirst) (mayPay second id paysSecond),
    ?_, ?_, moved.unborn⟩
  · intro other id creates
    rcases created_update creates with ⟨_, isNew⟩ | ⟨_, creates⟩
    · cases isNew
      exact ⟨orderly.unborn _ le_rfl, row, List.getElem?_concat_length, unset⟩
    · obtain ⟨none, undebited⟩ := orderly.created other id creates
      exact ⟨none, undisturbed.undebited id undebited⟩
  · intro first second id createsFirst createsSecond
    rcases created_update createsFirst with ⟨isFirst, isNew⟩ | ⟨_, createsFirst⟩
    · rcases created_update createsSecond with ⟨isSecond, _⟩ | ⟨_, createsSecond⟩
      · rw [isFirst, isSecond]
      · cases isNew
        exact absurd rfl (older second _ createsSecond)
    · rcases created_update createsSecond with ⟨_, isNew⟩ | ⟨_, createsSecond⟩
      · cases isNew
        exact absurd rfl (older first _ createsFirst)
      · exact orderly.owner first second id createsFirst createsSecond

/-- The creator of a record stores its debit and goes on to the credit, if it hears of it. -/
theorem Orderly.debit (creator : phases caller = .created id)
    (found : ledger.transfers[id]? = some row) (isSet : patch.debitTxRef ≠ none)
    (onlyPays : ∀ target, next.MayPay target → target = id)
    (createsNone : ∀ target, next ≠ .created target) :
    Orderly { ledger with transfers := ledger.transfers.set id (patch.apply row) }
      (Function.update phases caller next) := by
  obtain ⟨uncredited, undebited⟩ := orderly.created caller id creator
  have alone : ∀ other, ¬ (phases other).MayPay id := fun other pays =>
    not_debited_of_undebited undebited (orderly.unpaid other id pays).2
  refine ⟨orderly.atMostOnce, ?_, ?_, ?_, ?_, ?_⟩
  · intro other target pays
    rcases mayPay_update pays with ⟨_, pays⟩ | ⟨_, pays⟩
    · rw [onlyPays target pays]
      refine ⟨uncredited, patch.apply row, ?_, ?_⟩
      · show (ledger.transfers.set id (patch.apply row))[id]? = _
        rw [getElem?_update found, if_pos rfl]
      · show patch.debitTxRef.or row.debitTxRef ≠ none
        rw [Ne, Option.or_eq_none_iff, not_and]
        exact fun unset => absurd unset isSet
    · obtain ⟨none, debited⟩ := orderly.unpaid other target pays
      exact ⟨none, debited_update found debited⟩
  · intro first second target paysFirst paysSecond
    rcases mayPay_update paysFirst with ⟨isFirst, paysFirst⟩ | ⟨_, paysFirst⟩
    · rcases mayPay_update paysSecond with ⟨isSecond, _⟩ | ⟨_, paysSecond⟩
      · rw [isFirst, isSecond]
      · rw [onlyPays target paysFirst] at paysSecond
        exact absurd paysSecond (alone second)
    · rcases mayPay_update paysSecond with ⟨_, paysSecond⟩ | ⟨_, paysSecond⟩
      · rw [onlyPays target paysSecond] at paysFirst
        exact absurd paysFirst (alone first)
      · exact orderly.single first second target paysFirst paysSecond
  · intro other target creates
    rcases created_update creates with ⟨_, impossible⟩ | ⟨different, creates⟩
    · exact absurd impossible (createsNone target)
    · obtain ⟨none, undebitedTarget⟩ := orderly.created other target creates
      refine ⟨none, undebited_update found (fun same => ?_) undebitedTarget⟩
      rw [same] at creates
      exact absurd (orderly.owner other caller id creates creator) different
  · intro first second target createsFirst createsSecond
    rcases created_update createsFirst with ⟨_, impossible⟩ | ⟨_, createsFirst⟩
    · exact absurd impossible (createsNone target)
    · rcases created_update createsSecond with ⟨_, impossible⟩ | ⟨_, createsSecond⟩
      · exact absurd impossible (createsNone target)
      · exact orderly.owner first second target createsFirst createsSecond
  · intro target outside
    refine orderly.unborn target (le_trans (le_of_eq ?_) outside)
    exact List.length_set.symm

theorem Orderly.check {record : Stored Transfer} (debited : ledger.Debited record.id)
    (uncredited : ledger.credits record.id = [])
    (alone : ∀ other, other ≠ caller → ¬ (phases other).MayPay record.id) :
    Orderly ledger (Function.update phases caller (.checked record)) := by
  refine ⟨orderly.atMostOnce, ?_, ?_, ?_, ?_, orderly.unborn⟩
  · intro other id pays
    rcases mayPay_update pays with ⟨_, isRecord⟩ | ⟨_, pays⟩
    · rw [← show record.id = id from isRecord]
      exact ⟨uncredited, debited⟩
    · exact orderly.unpaid other id pays
  · intro first second id paysFirst paysSecond
    rcases mayPay_update paysFirst with ⟨isFirst, isRecord⟩ | ⟨differentFirst, paysFirst⟩
    · rcases mayPay_update paysSecond with ⟨isSecond, _⟩ | ⟨different, paysSecond⟩
      · rw [isFirst, isSecond]
      · rw [← show record.id = id from isRecord] at paysSecond
        exact absurd paysSecond (alone second different)
    · rcases mayPay_update paysSecond with ⟨_, isRecord⟩ | ⟨_, paysSecond⟩
      · rw [← show record.id = id from isRecord] at paysFirst
        exact absurd paysFirst (alone first differentFirst)
      · exact orderly.single first second id paysFirst paysSecond
  · intro other id creates
    rcases created_update creates with ⟨_, impossible⟩ | ⟨_, creates⟩
    · cases impossible
    · exact orderly.created other id creates
  · intro first second id createsFirst createsSecond
    rcases created_update createsFirst with ⟨_, impossible⟩ | ⟨_, createsFirst⟩
    · cases impossible
    · rcases created_update createsSecond with ⟨_, impossible⟩ | ⟨_, createsSecond⟩
      · cases impossible
      · exact orderly.owner first second id createsFirst createsSecond

theorem Orderly.pay (landed : Bool) (payer : phases caller = .unpaid id)
    (pays : transaction.purpose = .credit id) :
    Orderly (ledger.submit transaction landed) (Function.update phases caller .idle) := by
  have payerMayPay : (phases caller).MayPay id := by
    rw [payer]
    exact rfl
  obtain ⟨uncredited, debited⟩ := orderly.unpaid caller id payerMayPay
  have elsewhere : ∀ target, target ≠ id →
      (ledger.submit transaction landed).credits target = ledger.credits target := by
    intro target different
    refine credits_submit_of_ne fun counts => different ?_
    rw [pays] at counts
    cases counts.2
    rfl
  refine ⟨fun target => ?_, ?_, ?_, ?_, ?_, ?_⟩
  · by_cases same : target = id
    · rw [same, credits_submit, uncredited, List.nil_append]
      split
      · exact le_rfl
      · exact Nat.zero_le _
    · rw [elsewhere target same]
      exact orderly.atMostOnce target
  · intro other target paysTarget
    rcases mayPay_update paysTarget with ⟨_, impossible⟩ | ⟨different, paysTarget⟩
    · exact impossible.elim
    · have notSame : target ≠ id := by
        intro same
        rw [same] at paysTarget
        exact different (orderly.single other caller id paysTarget payerMayPay)
      obtain ⟨none, debitedTarget⟩ := orderly.unpaid other target paysTarget
      exact ⟨(elsewhere target notSame).trans none, debitedTarget⟩
  · intro first second target paysFirst paysSecond
    rcases mayPay_update paysFirst with ⟨_, impossible⟩ | ⟨_, paysFirst⟩
    · exact impossible.elim
    · rcases mayPay_update paysSecond with ⟨_, impossible⟩ | ⟨_, paysSecond⟩
      · exact impossible.elim
      · exact orderly.single first second target paysFirst paysSecond
  · intro other target creates
    rcases created_update creates with ⟨_, impossible⟩ | ⟨_, creates⟩
    · cases impossible
    · obtain ⟨none, undebited⟩ := orderly.created other target creates
      have notSame : target ≠ id := by
        intro same
        rw [same] at undebited
        exact not_debited_of_undebited undebited debited
      exact ⟨(elsewhere target notSame).trans none, undebited⟩
  · intro first second target createsFirst createsSecond
    rcases created_update createsFirst with ⟨_, impossible⟩ | ⟨_, createsFirst⟩
    · cases impossible
    · rcases created_update createsSecond with ⟨_, impossible⟩ | ⟨_, createsSecond⟩
      · cases impossible
      · exact orderly.owner first second target createsFirst createsSecond
  · intro target outside
    have notSame : target ≠ id := fun same =>
      absurd outside (Nat.not_le.mpr (same ▸ debited.lt))
    exact (elsewhere target notSame).trans (orderly.unborn target outside)

/-! ### Steps -/

/-- A caller that keeps its phase, or gives up, over an undisturbed world. -/
theorem Orderly.stay (undisturbed : Undisturbed ledger after) :
    Orderly after (Function.update phases caller (phases caller)) :=
  orderly.move undisturbed (fun _ pays => pays) fun _ creates => creates

theorem Orderly.rest (undisturbed : Undisturbed ledger after) :
    Orderly after (Function.update phases caller .idle) :=
  orderly.move undisturbed (fun _ impossible => impossible.elim) nofun

theorem Orderly.abandon :
    Orderly ledger (Function.update phases caller (phases caller).abandon) := by
  refine orderly.move (.refl ledger) (fun id pays => ?_) fun id creates => ?_
  · cases isPhase : phases caller with
    | unpaid record =>
      rw [isPhase] at pays
      exact pays
    | _ =>
      rw [isPhase] at pays
      exact pays.elim
  · cases isPhase : phases caller with
    | created record =>
      rw [isPhase] at creates
      exact creates
    | _ =>
      rw [isPhase] at creates
      cases creates

theorem Orderly.priced (settings : Settings) (price : Option ℚ) :
    Orderly ledger (Function.update phases caller ((phases caller).priced settings price)) := by
  cases isPhase : phases caller with
  | checked record =>
    unfold Phase.priced
    simp only
    split
    · exact orderly.rest (.refl ledger)
    · refine orderly.move (.refl ledger) (fun id pays => ?_) nofun
      rw [isPhase]
      exact pays
  | _ =>
    have stays : Orderly ledger (Function.update phases caller (phases caller)) :=
      orderly.stay (.refl ledger)
    rw [isPhase] at stays
    exact stays

theorem Orderly.submit
    (permitted : ∀ id, transaction.purpose = .credit id → phases caller = .unpaid id)
    (landed : Bool) :
    Orderly (ledger.submit transaction landed)
      (Function.update phases caller ((phases caller).submit transaction.purpose)) := by
  cases isPurpose : transaction.purpose with
  | credit id => exact orderly.pay landed (permitted id isPurpose) isPurpose
  | debit id => exact orderly.stay (undisturbed_submit (by simp [isPurpose]))
  | fee id => exact orderly.stay (undisturbed_submit (by simp [isPurpose]))
  | gas => exact orderly.stay (undisturbed_submit (by simp [isPurpose]))
  | approval => exact orderly.stay (undisturbed_submit (by simp [isPurpose]))

theorem Orderly.unsubmitted (purpose : Purpose) :
    Orderly ledger (Function.update phases caller ((phases caller).submit purpose)) := by
  cases purpose with
  | credit id => exact orderly.rest (.refl ledger)
  | debit id => exact orderly.stay (.refl ledger)
  | fee id => exact orderly.stay (.refl ledger)
  | gas => exact orderly.stay (.refl ledger)
  | approval => exact orderly.stay (.refl ledger)

theorem orderly_createTransfer {settings : Settings} (unset : row.debitTxRef = none)
    (creation : Creation) :
    Orderly (perform (.createTransfer row) creation ledger).1 (Function.update phases caller
      (nextPhase settings (phases caller) (.createTransfer row)
        (perform (.createTransfer row) creation ledger).2)) := by
  obtain ⟨delivery, time⟩ := creation
  have stamped : { row with requestedAt := time }.debitTxRef = none := unset
  cases delivery with
  | answered => exact orderly.create stamped
  | refused message => exact orderly.rest (.refl ledger)
  | lost message => exact orderly.rest (undisturbed_append _)

theorem orderly_updateTransfer {settings : Settings}
    (permitted : Permits (phases caller) (.updateTransfer id patch)) (delivery : Delivery) :
    Orderly (perform (.updateTransfer id patch) delivery ledger).1 (Function.update phases caller
      (nextPhase settings (phases caller) (.updateTransfer id patch)
        (perform (.updateTransfer id patch) delivery ledger).2)) := by
  cases found : ledger.transfers[id]? with
  | none =>
    simp only [perform, found]
    exact orderly.rest (.refl ledger)
  | some row =>
    simp only [perform, found]
    cases delivery with
    | refused message => exact orderly.rest (.refl ledger)
    | lost message =>
      by_cases unset : patch.debitTxRef = none
      · exact orderly.rest (undisturbed_update found unset)
      · exact orderly.debit (permitted (Or.inr unset)).1 found unset
          (fun _ impossible => impossible.elim) fun _ => Phase.noConfusion
    | answered =>
      by_cases unset : patch.debitTxRef = none
      · have notDebited : patch.status ≠ .debited := fun isDebited =>
          (permitted (Or.inl isDebited)).2 unset
        simp only [Delivery.write, Delivery.reply, nextPhase, if_neg notDebited]
        exact orderly.rest (undisturbed_update found unset)
      · refine orderly.debit (permitted (Or.inr unset)).1 found unset ?_ ?_
        · intro target pays
          simp only [Delivery.write, Delivery.reply, nextPhase] at pays
          split at pays
          · exact pays.symm
          · exact pays.elim
        · intro target creates
          simp only [Delivery.write, Delivery.reply, nextPhase] at creates
          split at creates <;> cases creates

end

end Moves

theorem orderly_findTransfer {settings : Settings} {before : Moment chains} {caller id : ℕ}
    {userId : String} {delivery : Delivery}
    (alone : ChecksAlone settings ⟨before, caller, .findTransfer .creditLeg id userId, delivery⟩)
    (orderly : Orderly before.state ((crediting settings).phase before)) :
    Orderly before.state (Function.update ((crediting settings).phase before) caller
      (nextPhase settings ((crediting settings).phase before caller)
        (.findTransfer .creditLeg id userId)
        (perform (.findTransfer .creditLeg id userId) delivery before.state).2)) := by
  set step : Step chains := ⟨before, caller, .findTransfer .creditLeg id userId, delivery⟩
  cases delivery with
  | refused message => exact orderly.rest (.refl _)
  | lost message => exact orderly.rest (.refl _)
  | answered =>
    cases found : before.state.transfers[id]?.filter fun row => row.userId = userId with
    | none =>
      simp only [perform, Delivery.read, Delivery.reply, found]
      exact orderly.rest (.refl _)
    | some row =>
      have replied : step.reply = .ok (some ⟨id, row⟩) := by
        show Except.ok (Option.map _ _) = _
        rw [found]
        rfl
      simp only [perform, Delivery.read, Delivery.reply, found, Option.map_some, nextPhase]
      by_cases passes : Passes settings row
      · rw [if_pos passes]
        have through : letThrough settings step.event = some ⟨id, row⟩ := by
          unfold Step.event
          rw [replied]
          exact if_pos passes
        obtain ⟨noOther, uncredited⟩ := alone ⟨id, row⟩ through
        exact orderly.check ⟨row, (Option.filter_eq_some_iff.mp found).1, passes.2.1⟩ uncredited
          noOther
      · rw [if_neg passes]
        exact orderly.rest (.refl _)

theorem orderly_keeps (settings : Settings) :
    (crediting settings).Keeps (ChecksAlone settings)
      fun moment => Orderly moment.state ((crediting settings).phase moment) := by
  intro step permitted alone orderly
  show Orderly step.after.state ((crediting settings).phase step.after)
  rw [phases_after]
  obtain ⟨before, caller, op, fate⟩ := step
  cases op with
  | createTransfer row => exact orderly_createTransfer orderly permitted fate
  | updateTransfer id patch => exact orderly_updateTransfer orderly permitted fate
  | findTransfer check id userId =>
    cases check with
    | retry => exact orderly.stay (.refl _)
    | creditLeg => exact orderly_findTransfer alone orderly
  | sendTransaction transaction =>
    cases fate with
    | known landed => exact orderly.submit permitted landed
    | refused message => exact orderly.unsubmitted _
    | lost message => exact orderly.submit permitted true
  | sendAndConfirmTransaction transaction =>
    cases fate with
    | answered => exact orderly.submit permitted true
    | refused message => exact orderly.unsubmitted _
    | lost message => exact orderly.submit permitted true
  | getPersonalSigner userId =>
    cases fate with
    | ok address => exact orderly.stay (.refl _)
    | error message => exact orderly.abandon
  | getSolanaKeypair userId =>
    cases fate with
    | ok address => exact orderly.stay (.refl _)
    | error message => exact orderly.abandon
  | fetchLegUsdPrice symbol => exact orderly.priced settings _
  | waitForReceipt hash => cases fate <;> exact orderly.stay (.refl _)
  | _ => exact orderly.stay (.refl _)

/-! ### The calls -/

section Calls

variable {settings : Settings}

/-- A phase outside the check of a credit. -/
def Phase.Unchecked : Phase → Prop
  | checked _ => False
  | _ => True

variable {phase : Phase}

theorem crediting_errands (unchecked : phase.Unchecked) (op : Op) (errand : Errand op) :
    (crediting settings).Neutral phase op := by
  have keeps : phase.abandon = phase := by
    cases phase with
    | checked record => exact unchecked.elim
    | _ => rfl
  have priced : ∀ price, phase.priced settings price = phase := by
    intro price
    cases phase with
    | checked record => exact unchecked.elim
    | _ => rfl
  have submitted : ∀ purpose : Purpose, purpose.Incidental → phase.submit purpose = phase := by
    intro purpose incidental
    cases purpose with
    | credit id => exact incidental.elim
    | _ => rfl
  cases op with
  | createTransfer row => exact errand.elim
  | findTransfer check id userId => exact errand.elim
  | findPendingCredits limit => exact errand.elim
  | updateTransfer id patch => exact errand.elim
  | sendTransaction transaction =>
    refine ⟨fun id isCredit => ?_, fun reply => submitted _ errand⟩
    have incidental : transaction.purpose.Incidental := errand
    rw [isCredit] at incidental
    exact incidental.elim
  | sendAndConfirmTransaction transaction =>
    refine ⟨fun id isCredit => ?_, fun reply => submitted _ errand⟩
    have incidental : transaction.purpose.Incidental := errand
    rw [isCredit] at incidental
    exact incidental.elim
  | getPersonalSigner userId =>
    refine ⟨trivial, fun reply => ?_⟩
    cases reply with
    | ok address => rfl
    | error message => exact keeps
  | getSolanaKeypair userId =>
    refine ⟨trivial, fun reply => ?_⟩
    cases reply with
    | ok address => rfl
    | error message => exact keeps
  | fetchLegUsdPrice symbol =>
    refine ⟨trivial, fun reply => ?_⟩
    cases reply with
    | ok price => exact priced price
    | error message => exact keeps
  | _ => exact ⟨trivial, fun _ => rfl⟩

variable {id : ℕ} {transaction : Transaction}

/-- A credit is submitted by who may pay it, and he may not pay it again. -/
theorem permits_credit (isCredit : transaction.purpose = .credit id) :
    (∀ other, transaction.purpose = .credit other → Phase.unpaid id = .unpaid other) ∧
      ∀ phase : Phase, phase.submit transaction.purpose = .idle := by
  rw [isCredit]
  exact ⟨fun other isOther => by rw [Purpose.credit.inj isOther], fun _ => rfl⟩

/-- A debit is open to every caller and moves none. -/
theorem permits_debit (isDebit : transaction.purpose = .debit id) :
    (∀ other, transaction.purpose = .credit other → phase = .unpaid other) ∧
      phase.submit transaction.purpose = phase := by
  rw [isDebit]
  exact ⟨fun other isOther => Purpose.noConfusion isOther, rfl⟩

theorem follows_sendCredit (isCredit : transaction.purpose = .credit id) :
    (crediting settings).Follows (.unpaid id) (await (.sendTransaction transaction))
      (ends (fun _ reached => reached = .idle) fun _ => True) :=
  Follows.perform (permits_credit isCredit).1
    (fun _ => (permits_credit isCredit).2 _) fun _ => trivial

/-- A credit is paid where it may be, and its payer may not pay again. -/
theorem paysFrom_unpaid (id : ℕ) :
    PaysFrom (crediting settings) (.unpaid id) (.credit id) (fun reached => reached = .idle)
      fun _ => True where
  errands := crediting_errands trivial
  thrown := trivial
  submits transaction reverted isCredit := by
    refine follows_submitOnBsc (follows_sendCredit isCredit) ?_
    rintro reached rfl
    exact ⟨trivial, crediting_errands trivial⟩
  confirms transaction isCredit :=
    Follows.perform (permits_credit isCredit).1
      (fun _ => (permits_credit isCredit).2 _) fun _ => trivial

/-- A debit leaves its record with its creator. -/
theorem paysFrom_created (id : ℕ) :
    PaysFrom (crediting settings) (.created id) (.debit id)
      (fun reached => reached = .created id) fun _ => True where
  errands := crediting_errands trivial
  thrown := trivial
  submits transaction reverted isDebit := by
    refine follows_submitOnBsc ?_ ?_
    · exact Follows.perform (permits_debit isDebit).1
        (fun _ => (permits_debit isDebit).2) fun _ => trivial
    · rintro reached rfl
      exact ⟨trivial, crediting_errands trivial⟩
  confirms transaction isDebit :=
    Follows.perform (permits_debit isDebit).1
      (fun _ => (permits_debit isDebit).2) fun _ => trivial

theorem follows_runCreditLeg (settings : Settings) (route : Route)
    (bridgeSourceAmount creditAmount : ℚ) (wallets : Wallets) (id : ℕ) :
    (crediting settings).Follows (.unpaid id)
      (runCreditLeg route bridgeSourceAmount creditAmount wallets id)
      (ends (fun _ reached => reached = .idle) fun _ => True) := by
  refine (paysFrom_unpaid id).runCreditLeg (fun _ isCredit => follows_sendCredit isCredit) ?_
    _ _ _ _
  rintro reached rfl
  exact ⟨trivial, crediting_errands trivial⟩

theorem follows_report (id : ℕ) {patch : TransferPatch} {status : TransferStatus}
    (isStatus : patch.status = status) (notDebited : status ≠ .debited)
    (unset : patch.debitTxRef = none) :
    (crediting settings).Follows phase (await (.updateTransfer id patch))
      (ends (fun _ reached => reached = .idle) fun _ => True) := by
  rw [← isStatus] at notDebited
  refine Follows.perform ?_ (fun _ => if_neg notDebited) fun _ => trivial
  rintro (isDebited | isSet)
  · exact absurd isDebited notDebited
  · exact absurd unset isSet

/-- The creator of a record stores its debit. -/
theorem follows_debited (id : ℕ) (debitTxRef : TxRef) :
    (crediting settings).Follows (.created id)
      (await (.updateTransfer id (debitedPatch debitTxRef)))
      (ends (fun _ reached => reached = .unpaid id) fun _ => True) := by
  refine Follows.perform (fun _ => ⟨rfl, Option.some_ne_none _⟩) (fun _ => ?_)
    fun _ => trivial
  show (if (debitedPatch debitTxRef).status = .debited then Phase.unpaid id else .idle) = _
  exact if_pos rfl

theorem follows_runDebitLeg (plan : Plan) (id : ℕ) :
    (crediting settings).Follows (.created id) (runDebitLeg plan id)
      (ends (fun _ reached => reached = .unpaid id) fun _ => True) := by
  have debited : (crediting settings).Follows (.created id) (sendDebit plan id)
      (ends (fun _ reached => reached = .created id) fun _ => True) := by
    unfold sendDebit
    split
    · exact (paysFrom_created id).sendBscToken _ _ _ _
    · exact (paysFrom_created id).sendSolToken _ _ _ _
  refine Follows.bind (debited.recover fun message reached _ => ?_) ?_
  · exact (follows_report id (rfl : _ = TransferStatus.failed) (by decide) rfl).bind
      fun _ _ _ => trivial
  · rintro debitTxRef reached rfl
    exact (follows_debited id debitTxRef).bind fun _ _ reached => reached

theorem follows_executeCrossChainTransfer (userId : String) (params : TransferParams) :
    (crediting settings).Follows .idle (executeCrossChainTransfer settings userId params)
      anywhere := by
  refine follows_after_errands (crediting_errands trivial) (errands_planTransfer _ _ _) trivial
    fun plan => ?_
  refine Follows.moves (fun record => .created record.id) rfl (fun _ => rfl) (fun _ => trivial)
    fun record => ?_
  refine (follows_runDebitLeg plan record.id).bind ?_
  rintro debitTxRef reached rfl
  have credited := follows_runCreditLeg settings plan.route plan.bridgeSourceAmount
    plan.quote.creditAmount plan.wallets record.id
  refine Follows.bind (credited.recover fun message reached _ => ?_) ?_
  · exact (follows_report record.id (rfl : _ = TransferStatus.creditPending) (by decide)
      rfl).bind fun _ _ _ => trivial
  · rintro creditTxRef reached rfl
    refine (follows_report record.id (rfl : _ = TransferStatus.completed) (by decide)
      rfl).bind ?_
    rintro updated reached rfl
    exact follows_after_errands (crediting_errands trivial)
      (errands_sweepTransferFeeToTreasury _ _ _ _ _) trivial fun _ => trivial

theorem follows_payCredit (record : Stored Transfer) (route : Route) (bridgeSourceAmount : ℚ)
    (wallets : Wallets) :
    (crediting settings).Follows (.unpaid record.id)
      (payCredit settings record route bridgeSourceAmount wallets) anywhere := by
  have credited := follows_runCreditLeg settings route bridgeSourceAmount
    record.row.creditAmount wallets record.id
  refine Follows.bind (credited.recover fun message reached _ => ?_) ?_
  · exact (follows_report record.id (rfl : _ = TransferStatus.creditPending) (by decide)
      rfl).bind fun _ _ _ => trivial
  · rintro creditTxRef reached rfl
    refine (follows_report record.id (rfl : _ = TransferStatus.completed) (by decide)
      rfl).bind ?_
    rintro updated reached rfl
    exact follows_after_errands (crediting_errands trivial)
      (errands_sweepTransferFeeToTreasury _ _ _ _ _) trivial fun _ => trivial

/-- The status check opens the credit leg or ends the call. -/
theorem follows_executeCrossChainCreditLeg (userId : String) (transferId : ℕ) :
    (crediting settings).Follows phase (executeCrossChainCreditLeg settings userId transferId)
      anywhere := by
  have found : (crediting settings).Follows phase
      (await (.findTransfer .creditLeg transferId userId))
      (ends (fun found reached => ∀ record, found = some record →
        Passes settings record.row → reached = .checked record) fun _ => True) := by
    refine Follows.perform trivial (fun found record isFound passes => ?_)
      fun _ => trivial
    rw [isFound]
    exact if_pos passes
  refine found.bind fun found reached isChecked => ?_
  refine Follows.orThrow (fun _ => trivial) fun record isRecord => ?_
  split
  · trivial
  · rename_i unfinished
    refine Follows.throwIf (fun _ => trivial) fun debited => ?_
    refine Follows.ofExcept (fun _ _ => trivial) fun route isRoute => ?_
    refine Follows.orThrow (fun _ => trivial) fun wallets areWallets => ?_
    have passes : Passes settings record.row := by
      refine ⟨unfinished, debited, ?_, ?_⟩
      · unfold creditRoute
        rw [isRoute]
        rfl
      · rw [areWallets]
        rfl
    rw [isChecked record isRecord passes]
    refine Follows.moves (fun _ => .checked record) trivial (fun _ => rfl) (fun _ => trivial)
      fun userBsc => ?_
    refine Follows.moves (fun _ => .checked record) trivial (fun _ => rfl) (fun _ => trivial)
      fun userSol => ?_
    have priced : (crediting settings).Follows (.checked record)
        (await (.fetchLegUsdPrice route.sourceLeg.binanceSymbol))
        (ends (fun price reached => 0 < bridgeSource settings record.row price →
          reached = .unpaid record.id) fun _ => True) := by
      refine Follows.perform trivial (fun price positive => ?_) fun _ => trivial
      exact if_neg (not_le.mpr positive)
    refine priced.bind fun price reached isUnpaid => ?_
    refine Follows.throwIf (fun _ => trivial) fun positive => ?_
    have isSource : bridgeSource settings record.row price =
        computeBridgeSourceAmount route record.row.amount (price.getD 0) := by
      unfold bridgeSource creditRoute
      rw [isRoute]
    rw [isUnpaid (by rw [isSource]; exact not_le.mp positive)]
    exact follows_payCredit _ _ _ _

theorem follows_retryCrossChainCredit (userId : String) (transferId : ℕ) :
    (crediting settings).Follows .idle (retryCrossChainCredit settings userId transferId)
      anywhere := by
  have found : (crediting settings).Follows .idle
      (await (.findTransfer .retry transferId userId)) anywhere :=
    Follows.perform trivial (fun _ => trivial) fun _ => trivial
  refine found.bind fun found reached _ => ?_
  refine Follows.orThrow (fun _ => trivial) fun record _ => ?_
  split
  · trivial
  · refine Follows.throwIf (fun _ => trivial) fun _ => ?_
    refine Follows.throwIf (fun _ => trivial) fun _ => ?_
    exact follows_executeCrossChainCreditLeg _ _

theorem follows_retryEach (pending : List (Stored Transfer)) (phase : Phase) :
    (crediting settings).Follows phase (retryEach settings pending) anywhere := by
  induction pending generalizing phase with
  | nil => trivial
  | cons stored rest inductionHypothesis =>
    have retried : (crediting settings).Follows phase
        (executeCrossChainCreditLeg settings stored.row.userId stored.id >>=
          fun _ => (return 1 : Call ℕ)) anywhere :=
      (follows_executeCrossChainCreditLeg _ _).bind fun _ _ _ => trivial
    refine Follows.bind (retried.recover fun _ _ _ => trivial) fun _ reached _ => ?_
    exact (inductionHypothesis reached).bind fun _ _ _ => trivial

theorem follows_retryAllPendingCrossChainCredits (limit : ℕ) :
    (crediting settings).Follows .idle (retryAllPendingCrossChainCredits settings limit)
      anywhere := by
  have listed : (crediting settings).Follows .idle (await (.findPendingCredits limit)) anywhere :=
    Follows.perform trivial (fun _ => trivial) fun _ => trivial
  exact listed.bind fun pending reached _ => follows_retryEach pending reached

end Calls

/-! ### Runs -/

/-- A call of the cross-chain services. -/
inductive Request where
  | transfer (userId : String) (params : TransferParams)
  | retry (userId : String) (transferId : ℕ)
  | creditLeg (userId : String) (transferId : ℕ)
  | sweep (limit : ℕ)

def Request.call (settings : Settings) : Request → Call Unit
  | transfer userId params => executeCrossChainTransfer settings userId params >>= fun _ => pure ()
  | retry userId transferId => retryCrossChainCredit settings userId transferId >>= fun _ => pure ()
  | creditLeg userId transferId =>
    executeCrossChainCreditLeg settings userId transferId >>= fun _ => pure ()
  | sweep limit => retryAllPendingCrossChainCredits settings limit >>= fun _ => pure ()

/-- The server when the calls begin. -/
def crossChainSystem (settings : Settings) (ledger : Ledger) (requests : List Request) :
    System chains Unit where
  moment := ⟨ledger, []⟩
  calls := requests.map (Request.call settings)

/-- No credit has been paid twice, and none of a record that does not exist. -/
structure Ledger.Consistent (ledger : Ledger) : Prop where
  atMostOnce : CreditedAtMostOnce ledger
  unborn : ∀ id, ledger.transfers.length ≤ id → ledger.credits id = []

theorem follows_request (settings : Settings) (request : Request) :
    (crediting settings).Follows .idle (request.call settings) anywhere := by
  cases request with
  | transfer userId params =>
    exact (follows_executeCrossChainTransfer userId params).bind fun _ _ _ => trivial
  | retry userId transferId =>
    exact (follows_retryCrossChainCredit userId transferId).bind fun _ _ _ => trivial
  | creditLeg userId transferId =>
    exact (follows_executeCrossChainCreditLeg userId transferId).bind fun _ _ _ => trivial
  | sweep limit =>
    exact (follows_retryAllPendingCrossChainCredits limit).bind fun _ _ _ => trivial

theorem orderly_start {ledger : Ledger} (consistent : ledger.Consistent) :
    Orderly ledger fun _ => .idle where
  atMostOnce := consistent.atMostOnce
  unpaid _ _ impossible := impossible.elim
  single _ _ _ impossible := impossible.elim
  created _ _ impossible := Phase.noConfusion impossible
  owner _ _ _ impossible := Phase.noConfusion impossible
  unborn := consistent.unborn

/-- Whatever the calls, their interleaving and the failures: if every status check that lets a
credit through is alone, every credit is paid at most once. -/
theorem creditedAtMostOnce_of_checksAlone {settings : Settings} {ledger : Ledger}
    (consistent : ledger.Consistent) (requests : List Request) (turns : List (Turn chains))
    (alone : ∀ step ∈ (crossChainSystem settings ledger requests).steps turns,
      ChecksAlone settings step) :
    CreditedAtMostOnce
      ((crossChainSystem settings ledger requests).run turns).moment.state := by
  have start : Orderly ledger ((crediting settings).phase ⟨ledger, []⟩) :=
    orderly_start consistent
  obtain ⟨holds, _⟩ := sound (orderly_keeps settings) start
    (System.each_call fun _ request => follows_request settings request) turns alone
  exact holds.invariant.atMostOnce

/-- A record whose debit has landed and whose credit is pending. -/
def owedTransfer : Transfer where
  userId := "alice"
  direction := .bscToSol
  asset := "USDT"
  destAsset := none
  amount := 100
  feeUsd := 1 / 10
  creditAmount := 999 / 10
  status := .creditPending
  debitTxRef := some (.sent 0)
  creditTxRef := none
  errorMessage := none
  requestedAt := 0

/-- The retry of a pending credit by itself pays it once. -/
theorem creditedAtMostOnce_retry :
    CreditedAtMostOnce ((crossChainSystem exampleSettings ⟨[owedTransfer], []⟩
      [.retry "alice" 0]).run (List.replicate 20 ⟨0, smooth⟩)).moment.state := by
  have consistent : Ledger.Consistent ⟨[owedTransfer], []⟩ :=
    ⟨fun _ => Nat.zero_le 1, fun _ _ => rfl⟩
  refine creditedAtMostOnce_of_checksAlone consistent _ _ ?_
  have facts : ∀ step ∈ (crossChainSystem exampleSettings ⟨[owedTransfer], []⟩
      [.retry "alice" 0]).steps (List.replicate 20 ⟨0, smooth⟩),
      step.caller = 0 ∧ (∀ event ∈ step.before.log, event.caller = 0) ∧
        ((letThrough exampleSettings step.event).isSome → step.before.state.submitted = []) := by
    decide +kernel
  intro step member record through
  obtain ⟨isCaller, events, unsubmitted⟩ := facts step member
  refine ⟨fun other different mayPay => ?_, ?_⟩
  · rw [phase_of_silent fun event isEvent isOther => different ?_] at mayPay
    · exact mayPay
    · rw [isCaller, ← isOther, events event isEvent]
  · unfold Ledger.credits Ledger.landedFor
    rw [unsubmitted (by rw [through]; rfl)]
    rfl

/-- The confirmation of every Solana payment times out after the payment has landed. -/
def lateConfirmation : (op : Op) → Fate op
  | .sendAndConfirmTransaction _ => .lost "Transaction was not confirmed in 30.00 seconds"
  | op => smooth op

/-- A transfer whose credit is confirmed late, and its user's retry after it. -/
def lateRequests : List Request := [.transfer "alice" usdtTransfer, .retry "alice" 0]

def lateTurns : List (Turn chains) :=
  List.replicate 30 ⟨0, lateConfirmation⟩ ++ List.replicate 30 ⟨1, smooth⟩

/-- The credit is paid twice when its first payment is reported as an error. -/
theorem not_creditedAtMostOnce :
    ¬ ∀ (requests : List Request) (turns : List (Turn chains)), CreditedAtMostOnce
      ((crossChainSystem exampleSettings ⟨[], []⟩ requests).run turns).moment.state := by
  intro always
  have once := always lateRequests lateTurns 0
  have twice : (((crossChainSystem exampleSettings ⟨[], []⟩ lateRequests).run
      lateTurns).moment.state.credits 0).length = 2 := by decide +kernel
  rw [twice] at once
  exact absurd once (by decide)

end GdslExchange.CrossChain
