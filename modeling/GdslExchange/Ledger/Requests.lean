/-
This file models deposits to the paper portfolio and withdrawals from it, and settles when the
portfolio is a ledger: when every withdrawal that takes effect finds its amount there, covers
the network fee and does not lie halfway between two units of the column.

The handler compares the amount with the balance, but before the transaction, and never with
the fee.
-/

import GdslExchange.Async.Delivery
import GdslExchange.Async.Program
import GdslExchange.Numeric.Column

namespace GdslExchange.Ledger

open Async Async.Program Numeric

/-! ### Rows -/

def NETWORK_FEE : ℚ := 5 / 2

/-- An amount that the schemas of both requests accept. -/
@[ext]
structure Amount where
  value : ℚ
  positive : 0 < value
  bounded : value ≤ 1000000

instance : DecidableEq Amount := fun _ _ => decidable_of_iff _ Amount.ext_iff.symm

inductive Network where
  | erc20
  | brc20
  | solana
deriving DecidableEq

inductive WithdrawalStatus where
  | pending
  | processing
  | completed
  | failed
deriving DecidableEq

inductive DepositStatus where
  | pending
  | completed
  | failed
deriving DecidableEq

/-- Amounts and fees are in columns of eight places. -/
structure Withdrawal where
  userId : String
  amount : ℤ
  walletAddress : String
  network : Network
  fee : ℤ
  status : WithdrawalStatus

structure Deposit where
  userId : String
  amount : ℤ
  status : DepositStatus
  reference : Option String

/-- The portfolios by their users, of each the `totalValue`. -/
structure Desk where
  totalValue : String → Option ℤ
  withdrawals : List Withdrawal
  deposits : List Deposit

namespace Desk

variable (desk : Desk)

/-- The two writes of a withdrawal from a portfolio. -/
def withdraw (withdrawal : Withdrawal) (total : ℤ) : Desk :=
  { desk with
    withdrawals := desk.withdrawals ++ [withdrawal]
    totalValue := Function.update desk.totalValue withdrawal.userId (some total) }

/-- The two writes of a deposit to a portfolio. -/
def deposit (deposit : Deposit) (total : ℤ) : Desk :=
  { desk with
    deposits := desk.deposits ++ [deposit]
    totalValue := Function.update desk.totalValue deposit.userId (some total) }

end Desk

/-! ### The handlers -/

inductive Op where
  | findPortfolio (userId : String)
  | withdraw (userId : String) (amount : Amount) (walletAddress : String) (network : Network)
  | deposit (userId : String) (amount : Amount) (reference : Option String)

/-- A transaction answers with the row it has created and the total. -/
abbrev Result : Op → Type
  | .findPortfolio _ => Option ℤ
  | .withdraw _ _ _ _ => Stored Withdrawal × ℤ
  | .deposit _ _ _ => Stored Deposit × ℤ

def Withdrawal.of (userId : String) (amount : Amount) (walletAddress : String)
    (network : Network) : Withdrawal :=
  ⟨userId, stored 8 amount.value, walletAddress, network, stored 8 NETWORK_FEE, .completed⟩

def Deposit.of (userId : String) (amount : Amount) (reference : Option String) : Deposit :=
  ⟨userId, stored 8 amount.value, .completed, reference⟩

def decremented (total : ℤ) (amount : Amount) : ℤ := stored 8 (held 8 total - amount.value)

def incremented (total : ℤ) (amount : Amount) : ℤ := stored 8 (held 8 total + amount.value)

def perform : (op : Op) → Delivery → Desk → Desk × Except String (Result op)
  | .findPortfolio userId, delivery, desk => delivery.read desk (desk.totalValue userId)
  | .withdraw userId amount walletAddress network, delivery, desk =>
    delivery.update desk (desk.totalValue userId) fun total =>
      let row := Withdrawal.of userId amount walletAddress network
      (desk.withdraw row (decremented total amount),
        ⟨desk.withdrawals.length, row⟩, decremented total amount)
  | .deposit userId amount reference, delivery, desk =>
    delivery.update desk (desk.totalValue userId) fun total =>
      let row := Deposit.of userId amount reference
      (desk.deposit row (incremented total amount),
        ⟨desk.deposits.length, row⟩, incremented total amount)

@[reducible] def tables : Service where
  State := Desk
  Op := Op
  Result := Result
  Failure := String
  Fate _ := Delivery
  perform := perform

abbrev Call (Value : Type) : Type := Program tables Value

def await (op : Op) : Call (Result op) := @Program.perform tables op

/-- What a withdrawal of an amount leaves for its wallet. -/
def finalAmount (amount : Amount) : ℚ := amount.value - NETWORK_FEE

inductive Response where
  | withdrawn (withdrawalId : ℕ) (amount fee finalAmount remainingBalance : ℚ)
  | deposited (id : ℕ) (amount walletBalance : ℚ)

/-- The handler of withdrawals. -/
def withdraw (userId : String) (amount : Amount) (walletAddress : String) (network : Network) :
    Call Response := do
  let found ← await (.findPortfolio userId)
  let portfolio ← orThrow found "Portfolio not found"
  let availableBalance := held 8 portfolio
  throwIf (amount.value > availableBalance) "Insufficient balance"
  let (withdrawal, updatedPortfolio) ← await (.withdraw userId amount walletAddress network)
  return .withdrawn withdrawal.id amount.value NETWORK_FEE (finalAmount amount)
    (held 8 updatedPortfolio)

def deposit (userId : String) (amount : Amount) (reference : Option String) : Call Response := do
  let found ← await (.findPortfolio userId)
  let _ ← orThrow found "Portfolio not found"
  let (deposit, updated) ← await (.deposit userId amount reference)
  return .deposited deposit.id (held 8 deposit.row.amount) (held 8 updated)

inductive Request where
  | withdraw (userId : String) (amount : Amount) (walletAddress : String) (network : Network)
  | deposit (userId : String) (amount : Amount) (reference : Option String)

def Request.call : Request → Call Response
  | .withdraw userId amount walletAddress network =>
    Ledger.withdraw userId amount walletAddress network
  | .deposit userId amount reference => Ledger.deposit userId amount reference

/-- The portfolios before the requests, none of them overdrawn. -/
abbrev Opening : Type := String → Option ℕ

def ledgerSystem (opening : Opening) (requests : List Request) : System tables Response :=
  ⟨⟨⟨fun userId => (opening userId).map Int.ofNat, [], []⟩, []⟩, requests.map Request.call⟩

/-! ### What a run should keep -/

def Desk.deposited (desk : Desk) (userId : String) : ℤ :=
  ((desk.deposits.filter fun row => row.userId = userId ∧ row.status = .completed).map
    Deposit.amount).sum

/-- The recorded withdrawals of a user. -/
def Desk.withdrawn (desk : Desk) (userId : String) : ℤ :=
  ((desk.withdrawals.filter fun row => row.userId = userId).map Withdrawal.amount).sum

/-- Every portfolio has what it had, with the deposits and without the withdrawals. -/
def Balanced (opening : Opening) (desk : Desk) : Prop :=
  ∀ userId total, desk.totalValue userId = some total →
    ∃ initial, opening userId = some initial ∧
      total = initial + desk.deposited userId - desk.withdrawn userId

def Covered (desk : Desk) : Prop :=
  ∀ userId total, desk.totalValue userId = some total → 0 ≤ total

def Recording (step : Step tables) (property : Amount → ℤ → Prop) : Prop :=
  match step.op with
  | .withdraw userId amount _ _ => Delivery.Applies step.fate →
    ∀ total ∈ step.before.state.totalValue userId, property amount total
  | _ => True

/-- After a step the portfolios are balanced and not negative, and what a withdrawal that it
records leaves is not negative either. -/
structure Sound (opening : Opening) (step : Step tables) : Prop where
  balanced : Balanced opening step.after.state
  covered : Covered step.after.state
  paid : Recording step fun amount _ => 0 ≤ finalAmount amount

/-- An amount that a portfolio has, that covers the fee and that is not halfway between two
units of its column. -/
structure Payable (amount : Amount) (total : ℤ) : Prop where
  available : stored 8 amount.value ≤ total
  worthwhile : NETWORK_FEE ≤ amount.value
  whole : ¬ Halfway (amount.value * 10 ^ 8)

/-- A withdrawal that takes effect can be paid from the portfolio that it meets. -/
def Orderly (step : Step tables) : Prop := Recording step Payable

instance (amount : Amount) (total : ℤ) : Decidable (Payable amount total) :=
  decidable_of_iff (stored 8 amount.value ≤ total ∧ NETWORK_FEE ≤ amount.value ∧
      ¬ Halfway (amount.value * 10 ^ 8))
    ⟨fun ⟨available, worthwhile, whole⟩ => ⟨available, worthwhile, whole⟩,
      fun payable => ⟨payable.available, payable.worthwhile, payable.whole⟩⟩

instance (step : Step tables) : Decidable (Orderly step) := by
  unfold Orderly Recording
  split <;> infer_instance

/-! ### Steps -/

/-- What an operation does if it takes effect. -/
def Op.effect : Op → Desk → Desk
  | .findPortfolio _, desk => desk
  | .withdraw userId amount walletAddress network, desk =>
    (desk.totalValue userId).elim desk fun total =>
      desk.withdraw (.of userId amount walletAddress network) (decremented total amount)
  | .deposit userId amount reference, desk =>
    (desk.totalValue userId).elim desk fun total =>
      desk.deposit (.of userId amount reference) (incremented total amount)

theorem state_after (step : Step tables) : step.after.state =
    if Delivery.Applies step.fate then step.op.effect step.before.state
    else step.before.state := by
  obtain ⟨before, caller, op, fate⟩ := step
  cases op with
  | findPortfolio userId => exact (ite_self _).symm
  | withdraw userId amount walletAddress network => exact Delivery.update_state _ _ _ _
  | deposit userId amount reference => exact Delivery.update_state _ _ _ _

theorem recording_withdraw {step : Step tables} (property : Amount → ℤ → Prop) {userId : String}
    {amount : Amount} {walletAddress : String} {network : Network} {total : ℤ}
    (isOp : step.op = .withdraw userId amount walletAddress network)
    (applies : Delivery.Applies step.fate)
    (found : step.before.state.totalValue userId = some total) :
    Recording step property ↔ property amount total := by
  unfold Recording
  rw [isOp]
  refine ⟨fun records => records applies total found, fun holds _ other isOther => ?_⟩
  rwa [← Option.some.inj (found.symm.trans isOther)]

theorem step_cases (step : Step tables) :
    (∃ userId amount walletAddress network total,
      step.op = .withdraw userId amount walletAddress network ∧ Delivery.Applies step.fate ∧
      step.before.state.totalValue userId = some total ∧
      step.after.state = step.before.state.withdraw (.of userId amount walletAddress network)
        (decremented total amount)) ∨
    (∀ property, Recording step property) ∧
      (step.after.state = step.before.state ∨
        ∃ userId amount reference total, step.before.state.totalValue userId = some total ∧
          step.after.state = step.before.state.deposit (.of userId amount reference)
            (incremented total amount)) := by
  rw [state_after]
  obtain ⟨before, caller, op, fate⟩ := step
  by_cases applies : Delivery.Applies fate
  · rw [if_pos applies]
    cases op with
    | findPortfolio userId => exact .inr ⟨fun _ => trivial, .inl rfl⟩
    | withdraw userId amount walletAddress network =>
      cases found : before.state.totalValue userId with
      | none =>
        refine .inr ⟨fun property _ total isTotal => ?_, .inl (congrArg (Option.elim · _ _) found)⟩
        exact absurd (found.symm.trans isTotal) (Option.some_ne_none total).symm
      | some total =>
        exact .inl ⟨userId, amount, walletAddress, network, total, rfl, applies, found,
          congrArg (Option.elim · _ _) found⟩
    | deposit userId amount reference =>
      refine .inr ⟨fun _ => trivial, ?_⟩
      cases found : before.state.totalValue userId with
      | none => exact .inl (congrArg (Option.elim · _ _) found)
      | some total =>
        exact .inr ⟨userId, amount, reference, total, found, congrArg (Option.elim · _ _) found⟩
  · rw [if_neg applies]
    refine .inr ⟨fun property => ?_, .inl rfl⟩
    cases op with
    | withdraw userId amount walletAddress network => exact fun applied => absurd applied applies
    | _ => trivial

/-! ### Sums of rows -/

section Rows

variable {desk : Desk} {total : ℤ}

theorem withdrawn_withdraw (row : Withdrawal) (userId : String) :
    (desk.withdraw row total).withdrawn userId =
      desk.withdrawn userId + if row.userId = userId then row.amount else 0 := by
  unfold Desk.withdrawn Desk.withdraw
  rw [List.filter_append, List.map_append, List.sum_append]
  congr 1
  by_cases same : row.userId = userId <;> simp [same]

theorem deposited_deposit (row : Deposit) (completed : row.status = .completed)
    (userId : String) : (desk.deposit row total).deposited userId =
      desk.deposited userId + if row.userId = userId then row.amount else 0 := by
  unfold Desk.deposited Desk.deposit
  rw [List.filter_append, List.map_append, List.sum_append]
  congr 1
  by_cases same : row.userId = userId <;> simp [same, completed]

theorem totalValue_withdraw (row : Withdrawal) :
    (desk.withdraw row total).totalValue row.userId = some total :=
  Function.update_self ..

theorem totalValue_deposit (row : Deposit) :
    (desk.deposit row total).totalValue row.userId = some total :=
  Function.update_self ..

theorem balanced_withdraw {opening : Opening} (row : Withdrawal) {after : ℤ}
    (found : desk.totalValue row.userId = some total) (balanced : Balanced opening desk) :
    Balanced opening (desk.withdraw row after) ↔ after = total - row.amount := by
  obtain ⟨initial, isOpening, isTotal⟩ := balanced row.userId total found
  have withdrawn : (desk.withdraw row after).withdrawn row.userId =
      desk.withdrawn row.userId + row.amount := by
    rw [withdrawn_withdraw, if_pos rfl]
  constructor
  · intro balancedAfter
    obtain ⟨same, isSame, isAfter⟩ := balancedAfter row.userId after (totalValue_withdraw row)
    rw [isOpening, Option.some.injEq] at isSame
    rw [isAfter, withdrawn, isTotal, ← isSame]
    show _ + desk.deposited row.userId - _ = _
    ring
  · intro isAfter userId other isOther
    by_cases same : userId = row.userId
    · subst same
      rw [totalValue_withdraw, Option.some.injEq] at isOther
      refine ⟨initial, isOpening, ?_⟩
      rw [← isOther, withdrawn, isAfter, isTotal]
      show _ = _ + desk.deposited row.userId - _
      ring
    · have isBefore := (Function.update_of_ne same _ _).symm.trans isOther
      rw [withdrawn_withdraw, if_neg fun isRow => same isRow.symm, add_zero]
      exact balanced userId other isBefore

theorem balanced_deposit {opening : Opening} (row : Deposit) (completed : row.status = .completed)
    (found : desk.totalValue row.userId = some total) (balanced : Balanced opening desk) :
    Balanced opening (desk.deposit row (total + row.amount)) := by
  intro userId other isOther
  rw [deposited_deposit row completed]
  by_cases same : userId = row.userId
  · subst same
    rw [totalValue_deposit, Option.some.injEq] at isOther
    obtain ⟨initial, isOpening, isTotal⟩ := balanced row.userId total found
    refine ⟨initial, isOpening, ?_⟩
    rw [← isOther, if_pos rfl, isTotal]
    show _ = _ - desk.withdrawn row.userId
    ring
  · have isBefore := (Function.update_of_ne same _ _).symm.trans isOther
    rw [if_neg fun isRow => same isRow.symm, add_zero]
    exact balanced userId other isBefore

theorem covered_update {after : Desk} {userId : String}
    (isUpdate : after.totalValue = Function.update desk.totalValue userId (some total))
    (covered : Covered desk) : Covered after ↔ 0 ≤ total := by
  unfold Covered
  rw [isUpdate]
  refine ⟨fun coveredAfter => coveredAfter userId total (Function.update_self ..), ?_⟩
  intro nonneg other otherTotal isOther
  by_cases same : other = userId
  · rw [same, Function.update_self, Option.some.injEq] at isOther
    rwa [← isOther]
  · rw [Function.update_of_ne same] at isOther
    exact covered other otherTotal isOther

end Rows

/-! ### One step -/

theorem stored_amount_nonneg (amount : Amount) : 0 ≤ stored 8 amount.value :=
  stored_nonneg amount.positive.le

/-- A total is decremented by what is stored for an amount and stays nonnegative if it is as
much and the amount is not halfway. -/
theorem decremented_iff (amount : Amount) (total : ℤ) :
    (decremented total amount = total - stored 8 amount.value ∧ 0 ≤ decremented total amount) ↔
      stored 8 amount.value ≤ total ∧ ¬ Halfway (amount.value * 10 ^ 8) := by
  unfold decremented
  rw [stored_held_sub total amount.positive.le]
  constructor
  · rintro ⟨exact, nonneg⟩
    split at exact
    case isTrue => omega
    case isFalse notBoth =>
      rw [if_neg notBoth, add_zero, sub_nonneg] at nonneg
      exact ⟨nonneg, fun halfway =>
        notBoth ⟨le_held_of_halfway amount.positive.le halfway nonneg, halfway⟩⟩
  · rintro ⟨available, whole⟩
    rw [if_neg fun both => whole both.2, add_zero]
    exact ⟨rfl, sub_nonneg.mpr available⟩

theorem incremented_eq (amount : Amount) {total : ℤ} (nonneg : 0 ≤ total) :
    incremented total amount = total + stored 8 amount.value :=
  stored_held_add nonneg amount.positive.le

theorem sound_iff_orderly {opening : Opening} {step : Step tables}
    (balanced : Balanced opening step.before.state) (covered : Covered step.before.state) :
    Sound opening step ↔ Orderly step := by
  rcases step_cases step with
    ⟨userId, amount, walletAddress, network, total, isOp, applies, found, isAfter⟩ |
    ⟨records, same | ⟨userId, amount, reference, total, found, isAfter⟩⟩
  · have isPaid := recording_withdraw (fun amount _ => 0 ≤ finalAmount amount) isOp applies found
    have isPayable := recording_withdraw Payable isOp applies found
    have isBalanced : Balanced opening step.after.state ↔
        decremented total amount = total - stored 8 amount.value := by
      rw [isAfter]
      exact balanced_withdraw (.of userId amount walletAddress network) found balanced
    have isCovered : Covered step.after.state ↔ 0 ≤ decremented total amount :=
      covered_update (congrArg Desk.totalValue isAfter) covered
    constructor
    · intro sound
      obtain ⟨available, whole⟩ := (decremented_iff amount total).mp
        ⟨isBalanced.mp sound.balanced, isCovered.mp sound.covered⟩
      exact isPayable.mpr ⟨available, sub_nonneg.mp (isPaid.mp sound.paid), whole⟩
    · intro orderly
      obtain ⟨available, worthwhile, whole⟩ := isPayable.mp orderly
      obtain ⟨isDifference, nonneg⟩ := (decremented_iff amount total).mpr ⟨available, whole⟩
      exact ⟨isBalanced.mpr isDifference, isCovered.mpr nonneg,
        isPaid.mpr (sub_nonneg.mpr worthwhile)⟩
  · refine ⟨fun _ => records _, fun _ => ⟨?_, ?_, records _⟩⟩ <;> rwa [same]
  · refine ⟨fun _ => records _, fun _ => ⟨?_, ?_, records _⟩⟩
    · rw [isAfter, incremented_eq amount (covered userId total found)]
      exact balanced_deposit (.of userId amount reference) rfl found balanced
    · rw [isAfter, covered_update rfl covered, incremented_eq amount (covered userId total found)]
      exact add_nonneg (covered userId total found) (stored_amount_nonneg amount)

/-! ### Runs -/

theorem balanced_opening (opening : Opening) :
    Balanced opening ⟨fun userId => (opening userId).map Int.ofNat, [], []⟩ := by
  intro userId total found
  obtain ⟨initial, isOpening, isTotal⟩ := Option.map_eq_some_iff.mp found
  refine ⟨initial, isOpening, ?_⟩
  rw [← isTotal]
  show (initial : ℤ) = initial + 0 - 0
  ring

theorem covered_opening (opening : Opening) :
    Covered ⟨fun userId => (opening userId).map Int.ofNat, [], []⟩ := by
  intro userId total found
  obtain ⟨initial, -, isTotal⟩ := Option.map_eq_some_iff.mp found
  rw [← isTotal]
  exact Int.natCast_nonneg initial

/-- A moment at which the portfolios are a ledger. -/
def Kept (opening : Opening) (moment : Moment tables) : Prop :=
  Balanced opening moment.state ∧ Covered moment.state

theorem orderly_of_sound_run {opening : Opening} {requests : List Request}
    {turns : List (Turn tables)}
    (sound : ∀ step ∈ (ledgerSystem opening requests).steps turns, Sound opening step) :
    ∀ step ∈ (ledgerSystem opening requests).steps turns, Orderly step :=
  (@System.run_keeps tables Response (Kept opening) (Sound opening) Orderly
    (fun _ kept sound => ⟨(sound_iff_orderly kept.1 kept.2).mp sound, sound.balanced,
      sound.covered⟩)
    _ ⟨balanced_opening opening, covered_opening opening⟩ turns sound).2

/-- In a run the portfolios are a ledger, and no recorded withdrawal leaves less than nothing, if
and only if every withdrawal that takes effect can be paid from the portfolio that it meets. -/
theorem ledger_iff (opening : Opening) (requests : List Request) (turns : List (Turn tables)) :
    (∀ step ∈ (ledgerSystem opening requests).steps turns, Sound opening step) ↔
      ∀ step ∈ (ledgerSystem opening requests).steps turns, Orderly step := by
  refine ⟨orderly_of_sound_run, fun orderly => ?_⟩
  refine (@System.run_keeps tables Response (Kept opening) Orderly (Sound opening)
    (fun step kept orderly => ?_) _ ⟨balanced_opening opening, covered_opening opening⟩ turns
    orderly).2
  have sound := (sound_iff_orderly kept.1 kept.2).mpr orderly
  exact ⟨sound, sound.balanced, sound.covered⟩

def ten : Amount := ⟨10, by decide +kernel, by decide +kernel⟩

/-- Two withdrawals of all that there is look before either is paid. -/
theorem not_ledger : ¬ ∀ (opening : Opening) (requests : List Request) (turns : List (Turn tables)),
    ∀ step ∈ (ledgerSystem opening requests).steps turns, Sound opening step := by
  intro always
  have orderly := orderly_of_sound_run (always (fun _ => some 1000000000)
    (List.replicate 2 (.withdraw "ann" ten "0x000000000000000000000000000000000000dead" .erc20))
    ([0, 1, 0, 1].map fun caller => ⟨caller, fun _ => .answered⟩))
  exact absurd orderly (by decide +kernel)

end GdslExchange.Ledger
