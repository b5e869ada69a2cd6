/-
This file models the application of referral codes and settles when a referral is rewarded
once: when the transaction that pays both sides meets a user who has not been referred.

The handler looks whether he has, but before the transaction, and the transaction does not
look again.
-/

import GdslExchange.Async.Delivery
import GdslExchange.Async.Program
import Mathlib.Algebra.Order.Ring.Rat
import Mathlib.Data.List.Nodup
import Mathlib.Tactic.Linarith

namespace GdslExchange.Referral

open Async Async.Program

/-! ### Rows -/

def REFEREE_BONUS : ℚ := 5

def REFERRER_BONUS : ℚ := 5

structure User where
  id : String
  referralCode : Option String
  referredById : Option String
  trialBalance : ℚ

/-- `referral_signup_bonus` and `referral_welcome_bonus`. -/
inductive Reason where
  | signupBonus
  | welcomeBonus
deriving DecidableEq

structure ReferralReward where
  userId : String
  amount : ℚ
  reason : Reason

structure Desk where
  users : List User
  rewards : List ReferralReward

def User.credit (user : User) (amount : ℚ) : User :=
  { user with trialBalance := user.trialBalance + amount }

/-- The update of the user who applies a code. -/
def User.refer (referrerId : String) (user : User) : User :=
  { user.credit REFEREE_BONUS with referredById := some referrerId }

def updateUser (id : String) (update : User → User) (users : List User) : List User :=
  users.map fun user => if user.id = id then update user else user

namespace Desk

variable (desk : Desk)

def findUser (id : String) : Option User := desk.users.find? fun user => user.id = id

def findReferrer (code : String) : Option String :=
  (desk.users.find? fun user => user.referralCode = some code).map User.id

/-- The four writes of the transaction. -/
def refer (userId referrerId : String) : Desk where
  users := updateUser referrerId (·.credit REFERRER_BONUS)
    (updateUser userId (User.refer referrerId) desk.users)
  rewards := desk.rewards ++ [⟨referrerId, REFERRER_BONUS, .signupBonus⟩,
    ⟨userId, REFEREE_BONUS, .welcomeBonus⟩]

/-- An update whose row is missing fails the transaction. -/
def HasBoth (userId referrerId : String) : Prop :=
  (∃ user ∈ desk.users, user.id = userId) ∧ ∃ user ∈ desk.users, user.id = referrerId

instance (userId referrerId : String) : Decidable (desk.HasBoth userId referrerId) :=
  inferInstanceAs (Decidable (_ ∧ _))

end Desk

/-! ### The handler -/

inductive Op where
  | findUser (id : String)
  | findReferrer (code : String)
  | transaction (userId referrerId : String)

abbrev Result : Op → Type
  | .findUser _ => Option User
  | .findReferrer _ => Option String
  | .transaction _ _ => Unit

def perform : (op : Op) → Delivery → Desk → Desk × Except String (Result op)
  | .findUser id, delivery, desk => delivery.read desk (desk.findUser id)
  | .findReferrer code, delivery, desk => delivery.read desk (desk.findReferrer code)
  | .transaction userId referrerId, delivery, desk =>
    if desk.HasBoth userId referrerId then
      delivery.write desk (desk.refer userId referrerId) ()
    else (desk, .error "Record to update not found.")

@[reducible] def tables : Service where
  State := Desk
  Op := Op
  Result := Result
  Failure := String
  Fate _ := Delivery
  perform := perform

abbrev Call (Value : Type) : Type := Program tables Value

def await (op : Op) : Call (Result op) := @Program.perform tables op

/-- The handler of `/apply`, of a validated code. -/
def apply (userId code : String) : Call Unit := do
  let found ← await (.findUser userId)
  let self ← orThrow found "User not found"
  throwIf (self.referredById.isSome) "Referral code already applied"
  throwIf (self.referralCode = some code) "Cannot use your own code"
  let found ← await (.findReferrer code)
  let referrerId ← orThrow found "Invalid referral code"
  throwIf (referrerId = userId) "Invalid referral code"
  await (.transaction userId referrerId)

/-- A request of a user, with his code. -/
structure Request where
  userId : String
  code : String

/-- Users of whom nobody has been referred. -/
structure Start where
  users : List User
  distinct : (users.map User.id).Nodup
  unreferred : ∀ user ∈ users, user.referredById = none

def referralSystem (start : Start) (requests : List Request) : System tables Unit :=
  ⟨⟨⟨start.users, []⟩, []⟩, requests.map fun request => apply request.userId request.code⟩

/-! ### What a run should keep -/

/-- How often a user got the welcome bonus. -/
def Desk.welcomes (desk : Desk) (userId : String) : ℕ :=
  desk.rewards.countP fun reward => reward.userId = userId ∧ reward.reason = .welcomeBonus

def Desk.signups (desk : Desk) (referrerId : String) : ℚ :=
  ((desk.rewards.filter fun reward =>
    reward.userId = referrerId ∧ reward.reason = .signupBonus).map ReferralReward.amount).sum

def Desk.referrals (desk : Desk) (referrerId : String) : ℕ :=
  desk.users.countP fun user => user.referredById = some referrerId

structure Lawful (desk : Desk) : Prop where
  welcomed : ∀ userId, desk.welcomes userId ≤ 1
  unselfish : ∀ user ∈ desk.users, user.referredById ≠ some user.id
  balanced : ∀ referrerId,
    desk.signups referrerId = REFERRER_BONUS * desk.referrals referrerId

/-- After a step the rewards are lawful, and who has been referred is so by whom he was. -/
structure Sound (step : Step tables) : Prop where
  lawful : Lawful step.after.state
  settled : ∀ old ∈ step.before.state.users, ∀ user ∈ step.after.state.users,
    user.id = old.id → ∀ referrerId, old.referredById = some referrerId →
      user.referredById = some referrerId

/-- A transaction that takes effect meets a user who has not been referred. -/
def Orderly (step : Step tables) : Prop :=
  match step.op with
  | .transaction userId referrerId =>
    Delivery.Applies step.fate → step.before.state.HasBoth userId referrerId →
      ∀ user ∈ step.before.state.users, user.id = userId → user.referredById = none
  | _ => True

instance (step : Step tables) : Decidable (Orderly step) := by
  unfold Orderly
  split <;> infer_instance

/-! ### Updates of one row -/

section Update

variable {users : List User} {id : String} {update : User → User}

theorem mem_updateUser {user : User} : user ∈ updateUser id update users ↔
    ∃ old ∈ users, user = if old.id = id then update old else old := by
  unfold updateUser
  rw [List.mem_map]
  exact exists_congr fun old => and_congr_right fun _ => eq_comm

theorem map_id_updateUser (update : User → User) (same : ∀ user, (update user).id = user.id) :
    (updateUser id update users).map User.id = users.map User.id := by
  unfold updateUser
  rw [List.map_map]
  refine List.map_congr_left fun user _ => ?_
  show (if user.id = id then update user else user).id = user.id
  split
  · exact same user
  · rfl

/-- A table with one row of an id is changed there. -/
theorem updateUser_split {before after : List User} {user : User} (isId : user.id = id)
    (distinct : ((before ++ user :: after).map User.id).Nodup) :
    updateUser id update (before ++ user :: after) = before ++ update user :: after := by
  rw [List.map_append, List.map_cons, List.nodup_append, List.nodup_cons] at distinct
  obtain ⟨-, ⟨notAfter, -⟩, apart⟩ := distinct
  have unchanged (rows : List User) (others : ∀ other ∈ rows, other.id ≠ id) :
      rows.map (fun other => if other.id = id then update other else other) = rows := by
    refine (List.map_congr_left fun other member => ?_).trans (List.map_id rows)
    exact if_neg (others other member)
  unfold updateUser
  rw [List.map_append, List.map_cons, if_pos isId]
  rw [unchanged before fun other member same => apart other.id
      (List.mem_map_of_mem member) user.id List.mem_cons_self (same.trans isId.symm)]
  rw [unchanged after fun other member same => notAfter
      (List.mem_map.mpr ⟨other, member, same.trans isId.symm⟩)]

theorem countP_updateUser (counted : User → Bool)
    (same : ∀ user, counted (update user) = counted user) :
    (updateUser id update users).countP counted = users.countP counted := by
  unfold updateUser
  rw [List.countP_map]
  refine List.countP_congr fun user _ => ?_
  show counted (if user.id = id then update user else user) = true ↔ _
  split
  · rw [same]
  · rfl

end Update

/-! ### The transaction -/

section Refer

variable {desk : Desk} {userId referrerId : String}

theorem welcomes_refer (other : String) : (desk.refer userId referrerId).welcomes other =
    desk.welcomes other + if userId = other then 1 else 0 := by
  unfold Desk.welcomes Desk.refer
  rw [List.countP_append]
  congr 1
  by_cases same : userId = other <;> simp [same]

theorem signups_refer (other : String) : (desk.refer userId referrerId).signups other =
    desk.signups other + if referrerId = other then REFERRER_BONUS else 0 := by
  unfold Desk.signups Desk.refer
  rw [List.filter_append, List.map_append, List.sum_append]
  congr 1
  by_cases same : referrerId = other <;> simp [same]

theorem mem_refer {user : User} (member : user ∈ (desk.refer userId referrerId).users) :
    ∃ old ∈ desk.users, user.id = old.id ∧
      user.referredById = if old.id = userId then some referrerId else old.referredById := by
  obtain ⟨middle, isMiddle, rfl⟩ := mem_updateUser.mp member
  obtain ⟨old, isOld, rfl⟩ := mem_updateUser.mp isMiddle
  refine ⟨old, isOld, ?_⟩
  by_cases isUser : old.id = userId
  · rw [if_pos isUser, if_pos isUser]
    split <;> exact ⟨rfl, rfl⟩
  · rw [if_neg isUser, if_neg isUser]
    split <;> exact ⟨rfl, rfl⟩

theorem referrals_refer (other : String) {user : User} (member : user ∈ desk.users)
    (isUser : user.id = userId) (distinct : (desk.users.map User.id).Nodup) :
    (desk.refer userId referrerId).referrals other +
        (if user.referredById = some other then 1 else 0) =
      desk.referrals other + if referrerId = other then 1 else 0 := by
  obtain ⟨before, after, isSplit⟩ := List.append_of_mem member
  have credited : (desk.refer userId referrerId).referrals other =
      (updateUser userId (User.refer referrerId) desk.users).countP
        fun user => user.referredById = some other :=
    countP_updateUser _ fun _ => rfl
  unfold Desk.referrals at credited ⊢
  rw [credited]
  rw [isSplit] at distinct ⊢
  rw [updateUser_split isUser distinct, List.countP_append, List.countP_append, List.countP_cons,
    List.countP_cons]
  simp only [User.refer, Option.some.injEq, decide_eq_true_eq]
  omega

theorem distinct_refer (distinct : (desk.users.map User.id).Nodup) :
    ((desk.refer userId referrerId).users.map User.id).Nodup := by
  unfold Desk.refer
  rwa [map_id_updateUser (·.credit REFERRER_BONUS) fun _ => rfl,
    map_id_updateUser (User.refer referrerId) fun _ => rfl]

end Refer

/-! ### Steps -/

/-- What a transaction does if it takes effect. -/
def Op.effect : Op → Desk → Desk
  | .transaction userId referrerId, desk =>
    if desk.HasBoth userId referrerId then desk.refer userId referrerId else desk
  | _, desk => desk

theorem state_after (step : Step tables) : step.after.state =
    if Delivery.Applies step.fate then step.op.effect step.before.state
    else step.before.state := by
  obtain ⟨before, caller, op, fate⟩ := step
  cases op with
  | findUser id => exact (ite_self _).symm
  | findReferrer code => exact (ite_self _).symm
  | transaction userId referrerId =>
    by_cases both : before.state.HasBoth userId referrerId
    · show (if _ then Delivery.write fate _ _ () else _).1 = if _ then (if _ then _ else _) else _
      rw [if_pos both, if_pos both]
      rfl
    · show (if _ then Delivery.write fate _ _ () else _).1 = if _ then (if _ then _ else _) else _
      rw [if_neg both, if_neg both]
      exact (ite_self _).symm

theorem step_cases (step : Step tables) : step.after.state = step.before.state ∨
    ∃ userId referrerId, step.op = .transaction userId referrerId ∧
      Delivery.Applies step.fate ∧ step.before.state.HasBoth userId referrerId ∧
      step.after.state = step.before.state.refer userId referrerId := by
  rw [state_after]
  split
  case isFalse => exact .inl rfl
  case isTrue applies =>
    cases isOp : step.op with
    | transaction userId referrerId =>
      by_cases both : step.before.state.HasBoth userId referrerId
      · exact .inr ⟨userId, referrerId, rfl, applies, both, if_pos both⟩
      · exact .inl (if_neg both)
    | _ => exact .inl rfl

/-- No transaction rewards a user for himself. -/
def Unselfish : Op → Prop
  | .transaction userId referrerId => referrerId ≠ userId
  | _ => True

theorem unselfish_apply (userId code : String) : (apply userId code).Only Unselfish := by
  refine only_then trivial fun found => only_bind only_orThrow fun self => ?_
  refine only_bind only_throwIf fun _ => only_bind only_throwIf fun _ => ?_
  refine only_then trivial fun found => only_bind only_orThrow fun referrerId => ?_
  exact only_throwIf_bind fun other => only_perform other

theorem unselfish_of_mem_steps (start : Start) (requests : List Request)
    (turns : List (Turn tables)) :
    ∀ step ∈ (referralSystem start requests).steps turns, Unselfish step.op :=
  System.permitted_of_only
    (System.each_call fun _ request => unselfish_apply request.userId request.code) turns

/-- Ids are distinct, and who has been referred has been welcomed. -/
structure Recorded (desk : Desk) : Prop where
  distinct : (desk.users.map User.id).Nodup
  welcomed : ∀ user ∈ desk.users, user.referredById.isSome → 1 ≤ desk.welcomes user.id

theorem recorded_refer {desk : Desk} {userId referrerId : String} (recorded : Recorded desk) :
    Recorded (desk.refer userId referrerId) := by
  refine ⟨distinct_refer recorded.distinct, fun user member referred => ?_⟩
  obtain ⟨old, isOld, sameId, isReferred⟩ := mem_refer member
  rw [welcomes_refer, sameId]
  by_cases isUser : old.id = userId
  · rw [if_pos isUser.symm]
    exact Nat.le_add_left _ _
  · rw [isReferred, if_neg isUser] at referred
    exact (recorded.welcomed old isOld referred).trans (Nat.le_add_right _ _)

theorem recorded_step {step : Step tables} (recorded : Recorded step.before.state) :
    Recorded step.after.state := by
  rcases step_cases step with same | ⟨userId, referrerId, -, -, -, isAfter⟩
  · rwa [same]
  · rw [isAfter]
    exact recorded_refer recorded

/-- Who has not been referred has not been welcomed. -/
def Unwelcomed (desk : Desk) : Prop :=
  ∀ user ∈ desk.users, user.referredById = none → desk.welcomes user.id = 0

theorem row_eq {desk : Desk} (distinct : (desk.users.map User.id).Nodup) {first second : User}
    (isFirst : first ∈ desk.users) (isSecond : second ∈ desk.users)
    (same : first.id = second.id) : first = second :=
  List.inj_on_of_nodup_map distinct isFirst isSecond same

theorem lawful_refer {desk : Desk} {user : User} {referrerId : String}
    (distinct : (desk.users.map User.id).Nodup) (member : user ∈ desk.users)
    (unreferred : user.referredById = none) (other : referrerId ≠ user.id)
    (unwelcomed : Unwelcomed desk) (lawful : Lawful desk) :
    Lawful (desk.refer user.id referrerId) := by
  refine ⟨fun userId => ?_, fun after isAfter => ?_, fun payee => ?_⟩
  · rw [welcomes_refer]
    split
    case isTrue same => rw [← same, unwelcomed user member unreferred]
    case isFalse => exact lawful.welcomed userId
  · obtain ⟨old, isOld, sameId, isReferred⟩ := mem_refer isAfter
    rw [isReferred, sameId]
    split
    case isTrue same =>
      rw [same]
      exact fun isSelf => other (Option.some.inj isSelf)
    case isFalse => exact lawful.unselfish old isOld
  · have counted : (desk.refer user.id referrerId).referrals payee + _ = _ :=
      referrals_refer payee member rfl distinct
    rw [unreferred, if_neg (Option.some_ne_none _).symm, Nat.add_zero] at counted
    rw [signups_refer, lawful.balanced, counted, Nat.cast_add, mul_add]
    split
    · rw [Nat.cast_one, mul_one]
    · rw [Nat.cast_zero, mul_zero]

theorem unwelcomed_refer {desk : Desk} {userId referrerId : String} (unwelcomed : Unwelcomed desk) :
    Unwelcomed (desk.refer userId referrerId) := by
  intro user member unreferred
  obtain ⟨old, isOld, sameId, isReferred⟩ := mem_refer member
  rw [welcomes_refer, sameId]
  rw [isReferred] at unreferred
  split at unreferred
  case isTrue => exact absurd unreferred (Option.some_ne_none _)
  case isFalse different =>
    rw [if_neg fun same => different same.symm]
    exact unwelcomed old isOld unreferred

/-! ### One step -/

theorem settled_step {step : Step tables} (orderly : Orderly step)
    (distinct : (step.before.state.users.map User.id).Nodup) :
    ∀ old ∈ step.before.state.users, ∀ user ∈ step.after.state.users,
      user.id = old.id → ∀ referrerId, old.referredById = some referrerId →
        user.referredById = some referrerId := by
  intro old isOld user isUser sameId referrerId referred
  rcases step_cases step with same | ⟨userId, newId, isOp, applies, both, isAfter⟩
  · rw [same] at isUser
    rw [row_eq distinct isUser isOld sameId, referred]
  · rw [isAfter] at isUser
    obtain ⟨row, isRow, sameRow, isReferred⟩ := mem_refer isUser
    have isOldRow : row = old := row_eq distinct isRow isOld (sameRow.symm.trans sameId)
    rw [isReferred, isOldRow]
    split
    case isTrue isUserId =>
      unfold Orderly at orderly
      rw [isOp] at orderly
      have unreferred := orderly applies both old isOld isUserId
      exact absurd (unreferred.symm.trans referred) (Option.some_ne_none _).symm
    case isFalse => exact referred

theorem lawful_step {step : Step tables} (unselfish : Unselfish step.op) (orderly : Orderly step)
    (recorded : Recorded step.before.state) (unwelcomed : Unwelcomed step.before.state)
    (lawful : Lawful step.before.state) :
    Lawful step.after.state ∧ Unwelcomed step.after.state := by
  rcases step_cases step with same | ⟨userId, referrerId, isOp, applies, both, isAfter⟩
  · rw [same]
    exact ⟨lawful, unwelcomed⟩
  · unfold Orderly at orderly
    rw [isOp] at orderly unselfish
    obtain ⟨user, member, isUser⟩ := both.1
    have unreferred := orderly applies both user member isUser
    rw [isAfter, ← isUser]
    rw [← isUser] at unselfish
    exact ⟨lawful_refer recorded.distinct member unreferred unselfish unwelcomed lawful,
      unwelcomed_refer unwelcomed⟩

/-- A transaction that meets a user who has been referred welcomes him again. -/
theorem orderly_of_sound {step : Step tables} (recorded : Recorded step.before.state)
    (sound : Sound step) : Orderly step := by
  obtain ⟨before, caller, op, fate⟩ := step
  cases op with
  | transaction userId referrerId =>
    intro applies both user member isUser
    by_contra referred
    have once := recorded.welcomed user member (Option.isSome_iff_ne_none.mpr referred)
    have twice := sound.lawful.welcomed userId
    have isAfter : Op.effect (.transaction userId referrerId) before.state =
        before.state.refer userId referrerId := if_pos both
    rw [state_after, if_pos applies, isAfter, welcomes_refer, if_pos rfl] at twice
    rw [isUser] at once
    exact Nat.not_succ_le_self 1 ((Nat.succ_le_succ once).trans twice)
  | _ => trivial

/-! ### Runs -/

theorem recorded_start (start : Start) : Recorded ⟨start.users, []⟩ :=
  ⟨start.distinct, fun user member referred => by
    rw [start.unreferred user member] at referred
    cases referred⟩

theorem lawful_start (start : Start) : Lawful ⟨start.users, []⟩ := by
  refine ⟨fun userId => Nat.zero_le 1, fun user member => ?_, fun referrerId => ?_⟩
  · rw [start.unreferred user member]
    exact (Option.some_ne_none _).symm
  · have none : (⟨start.users, []⟩ : Desk).referrals referrerId = 0 := by
      refine List.countP_eq_zero.mpr fun user member => ?_
      rw [start.unreferred user member]
      exact of_decide_eq_false rfl
    rw [none, Nat.cast_zero, mul_zero]
    rfl

theorem orderly_of_sound_run {start : Start} {requests : List Request} {turns : List (Turn tables)}
    (sound : ∀ step ∈ (referralSystem start requests).steps turns, Sound step) :
    ∀ step ∈ (referralSystem start requests).steps turns, Orderly step :=
  (@System.run_keeps tables Unit (fun moment => Recorded moment.state) Sound Orderly
    (fun _ recorded sound => ⟨orderly_of_sound recorded sound, recorded_step recorded⟩)
    _ (recorded_start start) turns sound).2

/-- Every referral of a run is rewarded once if and only if every transaction that takes effect
meets a user who has not been referred. -/
theorem rewardedOnce_iff (start : Start) (requests : List Request) (turns : List (Turn tables)) :
    (∀ step ∈ (referralSystem start requests).steps turns, Sound step) ↔
      ∀ step ∈ (referralSystem start requests).steps turns, Orderly step := by
  refine ⟨orderly_of_sound_run, fun orderly => ?_⟩
  refine (@System.run_keeps tables Unit
    (fun moment => Recorded moment.state ∧ Lawful moment.state ∧ Unwelcomed moment.state)
    (fun step => Orderly step ∧ Unselfish step.op) Sound (fun step kept allowed => ?_)
    _ ⟨recorded_start start, lawful_start start, fun _ _ _ => rfl⟩ turns fun step member =>
      ⟨orderly step member, unselfish_of_mem_steps start requests turns step member⟩).2
  obtain ⟨recorded, lawful, unwelcomed⟩ := kept
  obtain ⟨lawfulAfter, unwelcomedAfter⟩ :=
    lawful_step allowed.2 allowed.1 recorded unwelcomed lawful
  exact ⟨⟨lawfulAfter, settled_step allowed.1 recorded.distinct⟩, recorded_step recorded,
    lawfulAfter, unwelcomedAfter⟩

/-- In every run nobody is referred by himself, and who has been referred has been welcomed. -/
theorem referred_welcomed (start : Start) (requests : List Request) (turns : List (Turn tables)) :
    Recorded ((referralSystem start requests).run turns).moment.state ∧
      ∀ user ∈ ((referralSystem start requests).run turns).moment.state.users,
        user.referredById ≠ some user.id := by
  refine (@System.run_keeps tables Unit (fun moment => Recorded moment.state ∧
    ∀ user ∈ moment.state.users, user.referredById ≠ some user.id) (fun step => Unselfish step.op)
    (fun _ => True) (fun step kept other => ⟨trivial, recorded_step kept.1, ?_⟩) _
    ⟨recorded_start start, (lawful_start start).unselfish⟩ turns
    (unselfish_of_mem_steps start requests turns)).1
  rcases step_cases step with same | ⟨userId, referrerId, isOp, -, -, isAfter⟩
  · rw [same]
    exact kept.2
  · intro user member
    rw [isAfter] at member
    rw [isOp] at other
    obtain ⟨old, isOld, sameId, isReferred⟩ := mem_refer member
    rw [isReferred, sameId]
    split
    case isTrue same =>
      rw [same]
      exact fun isSelf => other (Option.some.inj isSelf)
    case isFalse => exact kept.2 old isOld

/-- Two users with codes and one without. -/
def household : Start where
  users := [⟨"ann", some "annscode", none, 0⟩, ⟨"bob", some "bobscode", none, 0⟩,
    ⟨"cat", none, none, 0⟩]
  distinct := by decide
  unreferred := by decide

/-- Both requests of a user look before either pays. -/
theorem not_rewardedOnce :
    ¬ ∀ (start : Start) (requests : List Request) (turns : List (Turn tables)),
      ∀ step ∈ (referralSystem start requests).steps turns, Sound step := by
  intro always
  have orderly := orderly_of_sound_run (always household
    [⟨"cat", "annscode"⟩, ⟨"cat", "bobscode"⟩]
    ([0, 1, 0, 1, 0, 1].map fun caller => ⟨caller, fun _ => .answered⟩))
  exact absurd orderly (by decide +kernel)

end GdslExchange.Referral
