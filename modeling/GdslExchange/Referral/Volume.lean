/-
This file models the share of a referrer in the Jupiter volume of those he has referred: the
credit of a buy, and the statistics that are read back from the reasons of the credits.

Crediting calls are taken to succeed.
-/

import GdslExchange.Jupiter.Book
import GdslExchange.Referral.Apply
import GdslExchange.Text.Decimal

namespace GdslExchange.Referral

open Jupiter (Side)
open Numeric
open Text

namespace Volume

/-! ### Tables -/

/-- The fields of a reward that the statistics read. -/
structure RewardRow where
  userId : String
  amount : ℚ
  reason : String

/-- The users and the rewards. Whoever has referred a user is a user himself. -/
structure Tables where
  users : List User
  rewards : List RewardRow
  linked : ∀ user ∈ users, ∀ referrerId, user.referredById = some referrerId →
    referrerId ≠ "" ∧ ∃ referrer ∈ users, referrer.id = referrerId

namespace Tables

def findUser (tables : Tables) (id : String) : Option User :=
  tables.users.find? fun user => user.id = id

def referrerOf (tables : Tables) (userId : String) : Option String :=
  (tables.findUser userId).bind User.referredById

/-- The `trialBalance` of a user. -/
def balance (tables : Tables) (userId : String) : Option ℚ :=
  (tables.findUser userId).map User.trialBalance

theorem linked_credit {users : List User} {referrerId : String} {amount : ℚ}
    (linked : ∀ user ∈ users, ∀ referrerId, user.referredById = some referrerId →
      referrerId ≠ "" ∧ ∃ referrer ∈ users, referrer.id = referrerId) :
    ∀ user ∈ updateUser referrerId (·.credit amount) users, ∀ referrerId',
      user.referredById = some referrerId' → referrerId' ≠ "" ∧
        ∃ referrer ∈ updateUser referrerId (·.credit amount) users, referrer.id = referrerId' := by
  intro user member other isReferred
  obtain ⟨old, isOld, rfl⟩ := mem_updateUser.mp member
  have referred : old.referredById = some other := by
    split at isReferred
    · exact isReferred
    · exact isReferred
  obtain ⟨named, referrer, isReferrer, isOther⟩ := linked old isOld other referred
  refine ⟨named, _, mem_updateUser.mpr ⟨referrer, isReferrer, rfl⟩, ?_⟩
  split
  · exact isOther
  · exact isOther

/-- The two writes of a credit. -/
def credit (tables : Tables) (referrerId : String) (row : RewardRow) : Tables where
  users := updateUser referrerId (·.credit row.amount) tables.users
  rewards := tables.rewards ++ [row]
  linked := linked_credit tables.linked

end Tables

/-! ### The credit -/

def referralVolumeBps : ℚ := 10

def minRewardUsd : ℚ := 1 / 100

def rewardOf (notionalUsd : ℚ) : ℚ :=
  roundTo 6 (max minRewardUsd (notionalUsd * referralVolumeBps / 10000))

def volumeShare : String := "jupiter_volume_share:"

def maybeCreditJupiterReferralVolume (tables : Tables) (userId : String) (notionalUsd : ℚ)
    (side : Side) : Tables :=
  if side ≠ .buy ∨ notionalUsd ≤ 0 then tables
  else
    match (tables.referrerOf userId).filter (· ≠ "") with
    | none => tables
    | some referrerId =>
      if rewardOf notionalUsd ≤ 0 then tables
      else tables.credit referrerId
        ⟨referrerId, rewardOf notionalUsd, volumeShare ++ (toFixed 2 notionalUsd).render⟩

/-! ### The statistics -/

/-- The volume that a reason stands for: `/^jupiter_volume_share:([\d.]+)$/`, parsed. -/
def volumeOf (reason : String) : ℚ :=
  let chars := reason.toList.drop volumeShare.length
  if volumeShare.toList <+: reason.toList ∧ chars ≠ [] ∧ chars.all fun c => c.isDigit ∨ c = '.' then
    parseDecimal chars
  else 0

structure Stats where
  jupiterReferralEarningsUsd : ℚ
  jupiterVolumeReferredUsd : ℚ
  jupiterReferralTrades : ℕ

def volumeRewards (tables : Tables) (userId : String) : List RewardRow :=
  tables.rewards.filter fun reward =>
    reward.userId = userId ∧ volumeShare.toList <+: reward.reason.toList

def getJupiterReferralStats (tables : Tables) (userId : String) : Stats :=
  let rewards := volumeRewards tables userId
  { jupiterReferralEarningsUsd := roundTo 6 (rewards.map RewardRow.amount).sum
    jupiterVolumeReferredUsd := roundTo 2 (rewards.map fun reward => volumeOf reward.reason).sum
    jupiterReferralTrades := rewards.length }

/-! ### What a credit adds -/

def cents (sizeUsd : ℚ) : ℚ := (toFixed 2 sizeUsd).value

variable {sizeUsd : ℚ}

theorem volumeOf_credit (nonneg : 0 ≤ sizeUsd) :
    volumeOf (volumeShare ++ (toFixed 2 sizeUsd).render) = cents sizeUsd := by
  have unsigned : 0 ≤ (toFixed 2 sizeUsd).units := by
    unfold toFixed
    rw [if_neg (not_lt.mpr nonneg)]
    exact round_nonneg (by positivity)
  have places : 0 < (toFixed 2 sizeUsd).places := Nat.succ_pos 1
  have isReason : (volumeShare ++ (toFixed 2 sizeUsd).render).toList =
      volumeShare.toList ++ (toFixed 2 sizeUsd).render.toList := String.toList_append
  have isRest : (volumeShare ++ (toFixed 2 sizeUsd).render).toList.drop volumeShare.length =
      (toFixed 2 sizeUsd).render.toList := by
    rw [isReason, ← String.length_toList, List.drop_left]
  unfold volumeOf
  rw [isRest, if_pos]
  · exact parseDecimal_render unsigned places
  · refine ⟨isReason ▸ List.prefix_append _ _, ?_, ?_⟩
    · rw [toList_render unsigned places]
      exact List.append_ne_nil_of_right_ne_nil _ (List.cons_ne_nil _ _)
    · exact List.all_eq_true.mpr fun c member =>
        decide_eq_true (mem_render unsigned places c member)

/-- Between two states of the tables a referrer has been rewarded for buys of some sizes. -/
structure Counts (before after : Tables) (referrerId : String) (sizes : List ℚ) : Prop where
  balance : after.balance referrerId =
    (before.balance referrerId).map fun balance => balance + (sizes.map rewardOf).sum
  volume : (getJupiterReferralStats after referrerId).jupiterVolumeReferredUsd =
    (getJupiterReferralStats before referrerId).jupiterVolumeReferredUsd + (sizes.map cents).sum
  trades : (getJupiterReferralStats after referrerId).jupiterReferralTrades =
    (getJupiterReferralStats before referrerId).jupiterReferralTrades + sizes.length

theorem counts_nothing (tables : Tables) (referrerId : String) :
    Counts tables tables referrerId [] where
  balance := by simp
  volume := by simp
  trades := rfl

variable {referrerId : String}

theorem Counts.trans {first second third : Tables} {earlier later : List ℚ}
    (before : Counts first second referrerId earlier) (after : Counts second third referrerId later) :
    Counts first third referrerId (earlier ++ later) where
  balance := by
    rw [after.balance, before.balance, Option.map_map, List.map_append, List.sum_append]
    refine congrArg (fun add => Option.map add _) (funext fun balance => ?_)
    exact add_assoc _ _ _
  volume := by
    rw [after.volume, before.volume, List.map_append, List.sum_append]
    exact add_assoc _ _ _
  trades := by
    rw [after.trades, before.trades, List.length_append]
    exact Nat.add_assoc _ _ _

theorem roundTo_add_cents (number sizeUsd : ℚ) :
    roundTo 2 (number + cents sizeUsd) = roundTo 2 number + cents sizeUsd := by
  have scale : (10 : ℚ) ^ 2 ≠ 0 := by norm_num
  have isCents : cents sizeUsd = ((toFixed 2 sizeUsd).units : ℚ) / 10 ^ 2 := rfl
  have shifted : Numeric.round (number * 10 ^ 2 + (toFixed 2 sizeUsd).units) =
      Numeric.round (number * 10 ^ 2) + (toFixed 2 sizeUsd).units := by
    unfold Numeric.round
    rw [add_right_comm, Int.floor_add_intCast]
  unfold roundTo
  rw [isCents, add_mul, div_mul_cancel₀ _ scale, shifted]
  push_cast
  exact add_div _ _ _

theorem find?_updateUser_credit (users : List User) (referrerId id : String) (amount : ℚ) :
    (updateUser referrerId (·.credit amount) users).find? (fun user => user.id = id) =
      (users.find? fun user => user.id = id).map fun user =>
        if user.id = referrerId then user.credit amount else user := by
  unfold updateUser
  rw [List.find?_map]
  refine congrArg _ (congrArg (fun isId => List.find? isId users) (funext fun user => ?_))
  show decide ((if user.id = referrerId then user.credit amount else user).id = id) = _
  split
  · rfl
  · rfl

theorem balance_credit (tables : Tables) (referrerId userId : String) (row : RewardRow) :
    (tables.credit referrerId row).balance userId =
      (tables.balance userId).map fun balance =>
        balance + if referrerId = userId then row.amount else 0 := by
  unfold Tables.balance Tables.findUser Tables.credit
  rw [find?_updateUser_credit]
  cases found : tables.users.find? fun user => user.id = userId with
  | none => rfl
  | some user =>
    have isUser : user.id = userId := by simpa using List.find?_some found
    rw [← isUser]
    show some (if user.id = referrerId then user.credit row.amount else user).trialBalance =
      some (user.trialBalance + if referrerId = user.id then row.amount else 0)
    by_cases same : user.id = referrerId
    · rw [if_pos same, if_pos same.symm]
      rfl
    · rw [if_neg same, if_neg (Ne.symm same), add_zero]

theorem counts_credit (tables : Tables) (nonneg : 0 ≤ sizeUsd) (referrerId other : String) :
    Counts tables (tables.credit referrerId
        ⟨referrerId, rewardOf sizeUsd, volumeShare ++ (toFixed 2 sizeUsd).render⟩) other
      (if referrerId = other then [sizeUsd] else []) := by
  set row : RewardRow :=
    ⟨referrerId, rewardOf sizeUsd, volumeShare ++ (toFixed 2 sizeUsd).render⟩ with isRow
  have rewards : volumeRewards (tables.credit referrerId row) other =
      volumeRewards tables other ++ if referrerId = other then [row] else [] := by
    unfold volumeRewards Tables.credit
    rw [List.filter_append]
    congr 1
    by_cases same : referrerId = other
    · rw [if_pos same, List.filter_cons_of_pos (by simp [isRow, same])]
      rfl
    · rw [if_neg same, List.filter_cons_of_neg (by simp [isRow, same])]
      rfl
  refine ⟨?_, ?_, ?_⟩
  · rw [balance_credit]
    refine congrArg (fun add => Option.map add _) (funext fun balance => ?_)
    split
    · simp [isRow]
    · simp
  · unfold getJupiterReferralStats
    dsimp only
    rw [rewards, List.map_append, List.sum_append]
    split
    · rw [List.map_singleton, List.map_singleton, List.sum_singleton, List.sum_singleton,
        volumeOf_credit nonneg]
      exact roundTo_add_cents _ _
    · simp
  · unfold getJupiterReferralStats
    dsimp only
    rw [rewards, List.length_append]
    split <;> rfl

theorem rewardOf_pos (sizeUsd : ℚ) : 0 < rewardOf sizeUsd := by
  have least : minRewardUsd ≤ max minRewardUsd (sizeUsd * referralVolumeBps / 10000) :=
    le_max_left _ _
  have rounded := lt_roundTo 6 (max minRewardUsd (sizeUsd * referralVolumeBps / 10000))
  have margin : 1 / (2 * 10 ^ 6) < minRewardUsd := by
    norm_num [minRewardUsd]
  unfold rewardOf
  linarith

variable {tables : Tables} {userId : String}

theorem named_of_referrerOf (isReferred : tables.referrerOf userId = some referrerId) :
    referrerId ≠ "" := by
  obtain ⟨user, found, referred⟩ := Option.bind_eq_some_iff.mp isReferred
  exact (tables.linked user (List.mem_of_find?_eq_some found) referrerId referred).1

theorem maybeCredit_referred (positive : 0 < sizeUsd)
    (isReferred : tables.referrerOf userId = some referrerId) :
    maybeCreditJupiterReferralVolume tables userId sizeUsd .buy = tables.credit referrerId
      ⟨referrerId, rewardOf sizeUsd, volumeShare ++ (toFixed 2 sizeUsd).render⟩ := by
  have counted : ¬ (Side.buy ≠ .buy ∨ sizeUsd ≤ 0) := by simp [positive]
  unfold maybeCreditJupiterReferralVolume
  rw [if_neg counted, isReferred, Option.filter_some_pos]
  · exact if_neg (not_le.mpr (rewardOf_pos sizeUsd))
  · simp [named_of_referrerOf isReferred]

theorem maybeCredit_unreferred (isUnreferred : tables.referrerOf userId = none) :
    maybeCreditJupiterReferralVolume tables userId sizeUsd .buy = tables := by
  unfold maybeCreditJupiterReferralVolume
  rw [isUnreferred]
  split <;> rfl

theorem counts_maybeCredit (tables : Tables) (userId other : String) (positive : 0 < sizeUsd) :
    Counts tables (maybeCreditJupiterReferralVolume tables userId sizeUsd .buy) other
      (if tables.referrerOf userId = some other then [sizeUsd] else []) := by
  cases isReferred : tables.referrerOf userId with
  | none =>
    rw [maybeCredit_unreferred isReferred, if_neg (by simp)]
    exact counts_nothing tables other
  | some referrerId =>
    rw [maybeCredit_referred positive isReferred]
    simp only [Option.some.injEq]
    exact counts_credit tables positive.le referrerId other

end Volume

end GdslExchange.Referral
