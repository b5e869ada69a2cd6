/-
This file settles when a swap is sent at most once, and a swap that lands is never reported as a
failure: when no response is lost of a transaction that lands, and its receipt is heard.
-/

import GdslExchange.Pancake.Executor

namespace GdslExchange.Pancake

open Async.Program

variable {env : Env} {params : PancakeSwapParams} {fates : (op : Op) → Fate op}

@[simp] theorem attempts_attempt_self (op : Op) (chain : Chain) :
    (chain.attempt op).attempts op = chain.attempts op + 1 := Function.update_self _ _ _

theorem attempts_attempt_of_ne {op other : Op} (different : other ≠ op) (chain : Chain) :
    (chain.attempt op).attempts other = chain.attempts other :=
  Function.update_of_ne different _ _

/-! ### Before the swap is sent -/

/-- The operations that neither send a swap nor wait for one. -/
def Preparatory : Op → Prop
  | .send _ => False
  | .wait _ => False
  | _ => True

/-- No swap has been sent, and none waited for. -/
structure Chain.Untouched (chain : Chain) : Prop where
  noneSent : chain.sent = []
  notTried : ∀ swap, chain.attempts (.send swap) = 0
  notWaited : ∀ hash, chain.attempts (.wait hash) = 0

theorem only_resolveTokenAddress (symbol : String) :
    (resolveTokenAddress env symbol).Only Preparatory := by
  unfold resolveTokenAddress checksum
  split
  · exact only_bind only_ofExcept fun _ => trivial
  · split
    · exact only_bind only_ofExcept fun _ => trivial
    · trivial

theorem only_buildPath (tokenIn tokenOut : String) :
    (buildPath env tokenIn tokenOut).Only Preparatory := by
  refine only_bind (only_resolveTokenAddress _) fun a => ?_
  refine only_bind (only_resolveTokenAddress _) fun b => ?_
  refine only_bind only_ofExcept fun w => ?_
  split
  · split <;> trivial
  · split <;> trivial

theorem only_parseAmountInWei (tokenIn : String) (amount : ℚ) :
    (parseAmountInWei env tokenIn amount).Only Preparatory := by
  have parses (decimals : ℕ) : (parseUnits amount decimals).Only Preparatory := by
    unfold parseUnits
    split
    · trivial
    · split <;> trivial
  unfold parseAmountInWei
  split
  · exact parses 18
  · exact only_bind (only_resolveTokenAddress _) fun token => parses token.decimals

theorem only_quoteSwap (amountInWei : ℤ) (path : List String) :
    (quoteSwap env params amountInWei path).Only Preparatory := by
  have decimals : (outDecimals env params.tokenOut).Only Preparatory := by
    unfold outDecimals
    split
    · trivial
    · exact only_bind (only_resolveTokenAddress _) fun _ => trivial
  have checks (outHuman : ℚ) : (checkOutput env outHuman).Only Preparatory := by
    unfold checkOutput
    split
    · trivial
    · split <;> trivial
  refine only_bind (only_retry (only_perform trivial) _ _) fun amounts => ?_
  dsimp only
  split
  · trivial
  · split
    · trivial
    · exact only_bind decimals fun _ => only_bind (checks _) fun _ => trivial

theorem only_ensureAllowance (token spender : String) (amountInWei : ℤ) :
    (ensureAllowance token spender amountInWei).Only Preparatory := by
  refine only_then trivial fun allowance => ?_
  split
  · refine only_bind (only_retry (only_perform trivial) _ _) fun hash => ?_
    refine only_then trivial fun receipt => ?_
    split <;> trivial
  · trivial

theorem only_approveInput (route : Route) (amountInWei : ℤ) :
    (approveInput env params route amountInWei).Only Preparatory := by
  unfold approveInput checksum
  split
  · trivial
  · split
    · exact only_bind (only_resolveTokenAddress _) fun _ => only_ensureAllowance _ _ _
    · exact only_bind (only_resolveTokenAddress _) fun _ =>
        only_bind only_ofExcept fun _ => only_ensureAllowance _ _ _

theorem only_gasPriceOf : gasPriceOf.Only Preparatory := by
  refine only_then trivial fun gasPrice => ?_
  cases gasPrice with
  | none => exact only_then trivial fun _ => trivial
  | some gasPrice => trivial

theorem only_prepareSwap : (prepareSwap env params).Only Preparatory := by
  unfold prepareSwap assertBscChain loadKey
  refine only_bind (by split <;> trivial) fun _ => ?_
  refine only_bind ?_ fun key => ?_
  · split
    · trivial
    · split <;> trivial
  refine only_bind (only_buildPath _ _) fun route => ?_
  refine only_bind (only_parseAmountInWei _ _) fun amountInWei => ?_
  split
  · trivial
  refine only_bind (only_quoteSwap _ _) fun quote => ?_
  refine only_bind only_gasPriceOf fun gasPrice => ?_
  split
  · trivial
  refine only_bind (only_approveInput _ _) fun _ => ?_
  refine only_bind (only_retry (only_perform trivial) _ _) fun gasEstimate => ?_
  refine only_then trivial fun balance => ?_
  dsimp only
  split <;> trivial

/-- Whatever is done before the swap is sent leaves it unsent. -/
theorem untouched_prepareSwap {chain : Chain} (untouched : chain.Untouched) :
    ((prepareSwap env params).exec fates chain).1.Untouched := by
  refine exec_keeps (fun op before preparatory kept => ?_) only_prepareSwap untouched
  have attempted (asked : Op) (isPreparatory : Preparatory asked) :
      (before.attempt asked).Untouched := by
    refine ⟨kept.noneSent, fun swap => ?_, fun hash => ?_⟩
    · refine (attempts_attempt_of_ne ?_ _).trans (kept.notTried swap)
      rintro rfl
      exact isPreparatory
    · refine (attempts_attempt_of_ne ?_ _).trans (kept.notWaited hash)
      rintro rfl
      exact isPreparatory
  cases op with
  | send swap => exact preparatory.elim
  | wait hash => exact preparatory.elim
  | _ => exact attempted _ trivial

/-! ### The attempts to send it -/

/-- Whether the response to an attempt is heard. -/
def Sending.Answered (sending : Sending) : Prop := ∃ landing, sending = .answered landing

/-- An attempt whose response is lost, and whose transaction lands all the same. -/
def Sending.LandsUnheard (sending : Sending) : Prop := ∃ message, sending = .lost .lands message

/-- The chain after a number of attempts to send a swap, none of which has been answered. -/
structure Chain.Tried (sends : ℕ → Sending) (swap : RouterCall) (tries : ℕ) (chain : Chain) :
    Prop where
  tried : chain.attempts (.send swap) = tries
  notWaited : ∀ hash, chain.attempts (.wait hash) = 0
  hashes : ∀ transaction ∈ chain.sent, transaction.hash < tries
  landed : 0 < chain.landed ↔ ∃ earlier < tries, (sends earlier).LandsUnheard

theorem landed_reach (chain : Chain) (transaction : Transaction) :
    (chain.reach transaction).landed =
      chain.landed + if transaction.landing = .lands then 1 else 0 := by
  simp [Chain.landed, Chain.reach, List.countP_append, List.countP_singleton]

theorem exists_lt_succ {holds : ℕ → Prop} (bound : ℕ) :
    (∃ number < bound + 1, holds number) ↔ (∃ number < bound, holds number) ∨ holds bound := by
  simp only [Nat.lt_succ_iff_lt_or_eq, or_and_right, exists_or, exists_eq_left]

variable {swap : RouterCall} {tries : ℕ} {chain : Chain}

theorem Chain.Tried.next (tried : chain.Tried (fates (.send swap)) swap tries)
    (unanswered : ¬ (fates (.send swap) tries).Answered) :
    ∃ failure, ∃ after : Chain, after.Tried (fates (.send swap)) swap (tries + 1) ∧
      (await (.send swap)).exec fates chain = (after, .error failure) := by
  have performed : (await (.send swap)).exec fates chain =
      perform (.send swap) (fates (.send swap)) chain := exec_perform _ _
  have counted : (chain.attempt (.send swap)).attempts (.send swap) = tries + 1 := by
    rw [← tried.tried]
    exact attempts_attempt_self _ _
  have waits (hash : ℕ) : (chain.attempt (.send swap)).attempts (.wait hash) = 0 := by
    have different : Op.wait hash ≠ .send swap := nofun
    exact (attempts_attempt_of_ne different _).trans (tried.notWaited hash)
  simp only [perform, tried.tried] at performed
  cases isSending : fates (.send swap) tries with
  | answered landing => exact absurd ⟨landing, isSending⟩ unanswered
  | refused message =>
    rw [isSending] at performed
    refine ⟨.other message, chain.attempt (.send swap),
      ⟨counted, waits, fun transaction member => ?_, ?_⟩, performed⟩
    · exact Nat.lt_succ_of_lt (tried.hashes transaction member)
    · rw [exists_lt_succ, ← tried.landed, isSending]
      simp [Sending.LandsUnheard, Chain.landed, Chain.attempt]
  | lost landing message =>
    rw [isSending] at performed
    refine ⟨.other message, (chain.attempt (.send swap)).reach ⟨tries, landing⟩,
      ⟨counted, waits, fun transaction member => ?_, ?_⟩, performed⟩
    · obtain old | isNew := List.mem_append.mp member
      · exact Nat.lt_succ_of_lt (tried.hashes transaction old)
      · rw [List.mem_singleton.mp isNew]
        exact Nat.lt_succ_self tries
    · rw [exists_lt_succ, ← tried.landed, isSending, landed_reach]
      have same : (chain.attempt (.send swap)).landed = chain.landed := rfl
      rw [same]
      cases landing <;> simp [Sending.LandsUnheard]

/-- A chain on which no swap has been sent, after so many attempts. -/
theorem tried_reached (untouched : chain.Untouched) {tries : ℕ}
    (unanswered : ∀ earlier < tries, ¬ (fates (.send swap) earlier).Answered) :
    (Async.Program.reached fates (await (.send swap)) tries chain).Tried (fates (.send swap)) swap
      tries := by
  induction tries with
  | zero =>
    refine ⟨untouched.notTried swap, untouched.notWaited, fun transaction member => ?_, ?_⟩
    · rw [show (Async.Program.reached fates (await (.send swap)) 0 chain).sent = [] from
        untouched.noneSent] at member
      cases member
    · simp [Chain.landed, show (Async.Program.reached fates (await (.send swap)) 0 chain).sent = []
        from untouched.noneSent]
  | succ tries inductionHypothesis =>
    have tried := inductionHypothesis fun earlier isEarlier =>
      unanswered earlier (Nat.lt_succ_of_lt isEarlier)
    obtain ⟨failure, after, next, ran⟩ := tried.next (unanswered tries (Nat.lt_succ_self tries))
    rw [reached_succ, ran]
    exact next

theorem failsAfter_send (untouched : chain.Untouched) {tries : ℕ}
    (unanswered : ∀ earlier < tries + 1, ¬ (fates (.send swap) earlier).Answered) :
    (await (.send swap)).FailsAfter fates tries chain := by
  have tried := tried_reached untouched fun earlier isEarlier =>
    unanswered earlier (Nat.lt_succ_of_lt isEarlier)
  obtain ⟨failure, after, -, ran⟩ := tried.next (unanswered tries (Nat.lt_succ_self tries))
  exact ⟨failure, congrArg Prod.snd ran⟩

theorem exec_send_answered {landing : Landing}
    (tried : chain.Tried (fates (.send swap)) swap tries)
    (answered : fates (.send swap) tries = .answered landing) :
    (await (.send swap)).exec fates chain =
      ((chain.attempt (.send swap)).reach ⟨tries, landing⟩, .ok tries) := by
  have performed : (await (.send swap)).exec fates chain =
      perform (.send swap) (fates (.send swap)) chain := exec_perform _ _
  simp only [perform, tried.tried] at performed
  rw [answered] at performed
  exact performed

/-! ### The wait for its receipt -/

/-- The wait that comes after a number of others that fail hears the receipt. -/
def Heard (waits : ℕ → Waiting) : Prop :=
  ∃ wait < 5, (∃ blockNumber, waits wait = .answered blockNumber) ∧
    ∀ earlier < wait, ∃ message, waits earlier = .failed message

/-- The chain after a number of waits for a transaction. -/
structure Chain.Waited (hash : ℕ) (landing : Landing) (sent : List Transaction) (waits : ℕ)
    (chain : Chain) : Prop where
  waited : chain.attempts (.wait hash) = waits
  same : chain.sent = sent
  known : chain.landingOf hash = some landing

variable {hash waits : ℕ} {landing : Landing} {sent : List Transaction}

theorem Chain.Waited.exec (waited : chain.Waited hash landing sent waits) :
    ∃ after : Chain, after.Waited hash landing sent (waits + 1) ∧
      (await (.wait hash)).exec fates chain =
        (after, receiptOf hash (some landing) (fates (.wait hash) waits)) := by
  have performed : (await (.wait hash)).exec fates chain =
      perform (.wait hash) (fates (.wait hash)) chain := exec_perform _ _
  simp only [perform, waited.waited, waited.known] at performed
  refine ⟨chain.attempt (.wait hash), ⟨?_, waited.same, waited.known⟩, performed⟩
  rw [attempts_attempt_self, waited.waited]

theorem waited_reached (waited : chain.Waited hash landing sent 0) (waits : ℕ) :
    (Async.Program.reached fates (await (.wait hash)) waits chain).Waited hash landing sent
      waits := by
  induction waits with
  | zero => exact waited
  | succ waits inductionHypothesis =>
    obtain ⟨after, next, ran⟩ := inductionHypothesis.exec 
    rw [reached_succ, ran]
    exact next

theorem failsAfter_wait_iff (waited : chain.Waited hash landing sent 0) :
    (await (.wait hash)).FailsAfter fates waits chain ↔
      ∃ failure, receiptOf hash (some landing) (fates (.wait hash) waits) = .error failure := by
  obtain ⟨after, -, ran⟩ := (waited_reached waited waits).exec 
  unfold FailsAfter
  rw [ran]

theorem receiptOf_eq_some_iff {waiting : Waiting} {receipt : Receipt} :
    receiptOf hash (some landing) waiting = .ok (some receipt) ↔
      landing = .lands ∧ ∃ blockNumber, waiting = .answered blockNumber ∧
        receipt = ⟨hash, some 1, blockNumber⟩ := by
  cases waiting <;> cases landing <;> simp [receiptOf, eq_comm]

theorem failsAfter_wait_iff_of_lands (waited : chain.Waited hash .lands sent 0) :
    (await (.wait hash)).FailsAfter fates waits chain ↔
      ∃ message, fates (.wait hash) waits = .failed message := by
  rw [failsAfter_wait_iff waited]
  cases fates (.wait hash) waits <;> simp [receiptOf]

theorem exec_wait (waited : chain.Waited hash landing sent 0) :
    ∃ (after : Chain) (receipt : Except Failure (Option Receipt)), after.sent = sent ∧
      (withRetry (await (.wait hash)) 5).exec fates chain = (after, receipt) ∧
      (∀ found, receipt = .ok (some found) → found.status = some 1) ∧
      ((∃ found, receipt = .ok (some found)) ↔
        landing = .lands ∧ Heard (fates (.wait hash))) := by
  obtain all | ⟨wait, few, first, before⟩ :=
    all_or_first (fun wait => (await (.wait hash)).FailsAfter fates wait chain) 5
  · obtain ⟨failure, thrown⟩ := exec_retry_of_failure all
    refine ⟨_, _, (waited_reached waited 5).same, thrown, nofun, iff_of_false nofun ?_⟩
    rintro ⟨rfl, wait, few, ⟨blockNumber, answered⟩, -⟩
    obtain ⟨message, failed⟩ := (failsAfter_wait_iff_of_lands waited).mp (all wait few)
    cases answered.symm.trans failed
  obtain ⟨after, next, ran⟩ := (waited_reached waited wait).exec 
  cases answer : receiptOf hash (some landing) (fates (.wait hash) wait) with
  | error failure => exact absurd ((failsAfter_wait_iff waited).mpr ⟨failure, answer⟩) first
  | ok receipt =>
    rw [answer] at ran
    refine ⟨after, _, next.same, exec_retry_of_success few before ran, ?_, ?_, ?_⟩
    · rintro found isFound
      obtain rfl := Except.ok.inj isFound
      obtain ⟨-, blockNumber, -, rfl⟩ := receiptOf_eq_some_iff.mp answer
      rfl
    · rintro ⟨found, isFound⟩
      obtain rfl := Except.ok.inj isFound
      obtain ⟨rfl, blockNumber, answered, -⟩ := receiptOf_eq_some_iff.mp answer
      exact ⟨rfl, wait, few, ⟨blockNumber, answered⟩, fun earlier isEarlier =>
        (failsAfter_wait_iff_of_lands waited).mp (before earlier isEarlier)⟩
    · rintro ⟨rfl, heard, -, ⟨blockNumber, answered⟩, failed⟩
      rw [failsAfter_wait_iff_of_lands waited] at first
      obtain earlier | rfl | later := lt_trichotomy heard wait
      · obtain ⟨message, ended⟩ :=
          (failsAfter_wait_iff_of_lands waited).mp (before heard earlier)
        cases answered.symm.trans ended
      · refine ⟨⟨hash, some 1, blockNumber⟩, ?_⟩
        rw [← answer, answered]
        rfl
      · exact absurd (failed wait later) first

/-! ### The swap -/

/-- At most one transaction of a swap lands, and none where a failure is reported. -/
def SoundlySent (env : Env) (params : PancakeSwapParams) (fates : (op : Op) → Fate op) : Prop :=
  let ended := (executePancakeSwap env params).exec fates .start
  ended.1.landed ≤ 1 ∧ ∀ failure, ended.2 = .error failure → ended.1.landed = 0

/-- The swap is ready to be sent. -/
def Prepares (env : Env) (params : PancakeSwapParams) (fates : (op : Op) → Fate op)
    (prepared : PreparedSwap) : Prop :=
  ∃ after, (prepareSwap env params).exec fates .start = (after, .ok prepared)

/-- Of the attempts to send a swap that are made, none is lost whose transaction lands, and the
receipt of one that is answered and lands is heard. -/
structure Delivered (fates : (op : Op) → Fate op) (swap : RouterCall) : Prop where
  noneLost : ∀ tries < 3, (∀ earlier < tries, ¬ (fates (.send swap) earlier).Answered) →
    ¬ (fates (.send swap) tries).LandsUnheard
  heard : ∀ tries < 3, (∀ earlier < tries, ¬ (fates (.send swap) earlier).Answered) →
    fates (.send swap) tries = .answered .lands → Heard (fates (.wait tries))

/-- The first attempt that is answered: nothing is lost if nothing was before it, and its receipt
is heard. -/
theorem delivered_iff {tries : ℕ} (few : tries < 3) (isAnswered : fates (.send swap) tries =
      .answered landing)
    (unanswered : ∀ earlier < tries, ¬ (fates (.send swap) earlier).Answered) :
    Delivered fates swap ↔
      (¬ ∃ earlier < tries, (fates (.send swap) earlier).LandsUnheard) ∧
        (landing = .lands → Heard (fates (.wait tries))) := by
  constructor
  · intro delivered
    refine ⟨?_, ?_⟩
    · rintro ⟨earlier, isEarlier, lost⟩
      exact delivered.noneLost earlier (isEarlier.trans few)
        (fun first isFirst => unanswered first (isFirst.trans isEarlier)) lost
    · rintro rfl
      exact delivered.heard tries few unanswered isAnswered
  · rintro ⟨noneLost, heard⟩
    have notLater {made : ℕ}
        (silent : ∀ earlier < made, ¬ (fates (.send swap) earlier).Answered) : made ≤ tries :=
      not_lt.mp fun later => silent tries later ⟨landing, isAnswered⟩
    refine ⟨fun made _ silent lost => ?_, fun made _ silent isLanding => ?_⟩
    · obtain earlier | rfl := (notLater silent).lt_or_eq
      · exact noneLost ⟨made, earlier, lost⟩
      · obtain ⟨message, isLost⟩ := lost
        cases isAnswered.symm.trans isLost
    · obtain earlier | rfl := (notLater silent).lt_or_eq
      · exact absurd ⟨_, isLanding⟩ (unanswered made earlier)
      · cases isAnswered.symm.trans isLanding
        exact heard rfl

theorem exec_sent {prepared : PreparedSwap} (waited : chain.Waited hash landing sent 0) :
    ∃ (after : Chain) (outcome : Except Failure PancakeSwapResult), after.sent = sent ∧
      (awaitReceipt params prepared hash).exec fates chain = (after, outcome) ∧
      ((∀ failure, outcome ≠ .error failure) ↔
        landing = .lands ∧ Heard (fates (.wait hash))) := by
  obtain ⟨after, receipt, same, ran, status, found_iff⟩ := exec_wait waited
  unfold awaitReceipt
  rw [← found_iff]
  cases receipt with
  | error failure =>
    exact ⟨after, _, same, exec_bind_error ran, iff_of_false (fun returns => returns _ rfl) nofun⟩
  | ok receipt =>
    rw [exec_bind_ok ran]
    cases receipt with
    | none => exact ⟨after, _, same, rfl, iff_of_false (fun returns => returns _ rfl) nofun⟩
    | some found =>
      have isLanded : ¬ found.status.getD 0 ≠ 1 := by simp [status found rfl]
      dsimp only
      rw [if_neg isLanded]
      exact ⟨after, _, same, rfl, iff_of_true nofun ⟨found, rfl⟩⟩

theorem landingOf_reach (fresh : ∀ transaction ∈ chain.sent, transaction.hash < hash) :
    (chain.reach ⟨hash, landing⟩).landingOf hash = some landing := by
  have notThere : chain.sent.find? (fun transaction => transaction.hash = hash) = none :=
    List.find?_eq_none.mpr fun transaction member => by simp [(fresh transaction member).ne]
  simp [Chain.landingOf, Chain.reach, List.find?_append, notThere]

theorem sendSwap_iff {prepared : PreparedSwap} (untouched : chain.Untouched) :
    (((sendSwap params prepared).exec fates chain).1.landed ≤ 1 ∧
      ∀ failure, ((sendSwap params prepared).exec fates chain).2 = .error failure →
        ((sendSwap params prepared).exec fates chain).1.landed = 0) ↔
      Delivered fates prepared.swap := by
  set swap := prepared.swap
  unfold sendSwap withRetry
  obtain unanswered | ⟨tries, few, isHeard, unanswered⟩ :=
    all_or_first (fun tries => ¬ (fates (.send swap) tries).Answered) 3
  · obtain ⟨failure, thrown⟩ := @exec_retry_of_failure network ℕ fates (await (.send swap)) 3
      (.other "undefined") chain fun tries few => failsAfter_send untouched fun earlier isEarlier =>
        unanswered earlier (lt_of_lt_of_le isEarlier few)
    have none_iff := not_congr (tried_reached untouched unanswered).landed
    rw [Nat.not_lt, Nat.le_zero] at none_iff
    rw [exec_bind_error thrown]
    constructor
    · rintro ⟨-, none⟩
      have noneLost := none_iff.mp (none failure rfl)
      refine ⟨fun tries few _ lost => noneLost ⟨tries, few, lost⟩, fun tries few _ isAnswered => ?_⟩
      exact absurd ⟨_, isAnswered⟩ (unanswered tries few)
    · intro delivered
      have none := none_iff.mpr fun ⟨tries, few, lost⟩ =>
        delivered.noneLost tries few
          (fun earlier isEarlier => unanswered earlier (isEarlier.trans few)) lost
      exact ⟨none.le.trans zero_le_one, fun _ _ => none⟩
  · obtain ⟨landing, isAnswered⟩ := not_not.mp isHeard
    have tried := tried_reached untouched unanswered
    have failed : ∀ earlier < tries, (await (.send swap)).FailsAfter fates earlier chain :=
      fun earlier isEarlier => failsAfter_send untouched fun first isFirst =>
        unanswered first (lt_of_lt_of_le isFirst isEarlier)
    rw [exec_bind_ok (exec_retry_of_success few failed (exec_send_answered tried isAnswered)),
      delivered_iff few isAnswered unanswered, ← tried.landed]
    set before := Async.Program.reached fates (await (.send swap)) tries chain
    have different : Op.wait tries ≠ .send swap := nofun
    have waited : ((before.attempt (.send swap)).reach ⟨tries, landing⟩).Waited tries landing
        (before.sent ++ [⟨tries, landing⟩]) 0 :=
      ⟨(attempts_attempt_of_ne different _).trans (tried.notWaited tries), rfl,
        landingOf_reach tried.hashes⟩
    obtain ⟨after, outcome, same, ran, returns_iff⟩ :=
      exec_sent waited
    rw [ran]
    have landed : after.landed = before.landed + if landing = .lands then 1 else 0 := by
      rw [← landed_reach before ⟨tries, landing⟩]
      exact congrArg (List.countP _) same
    rw [landed]
    by_cases lands : landing = .lands
    · rw [if_pos lands]
      constructor
      · rintro ⟨atMost, reported⟩
        refine ⟨by omega, fun _ => (returns_iff.mp fun failure isFailure => ?_).2⟩
        have none := reported failure isFailure
        omega
      · rintro ⟨noneLost, heard⟩
        have returns := returns_iff.mpr ⟨lands, heard lands⟩
        exact ⟨by omega, fun failure isFailure => absurd isFailure (returns failure)⟩
    · rw [if_neg lands]
      have throws : ∃ failure, outcome = .error failure := by
        by_contra returns
        exact lands (returns_iff.mp fun failure isFailure => returns ⟨failure, isFailure⟩).1
      obtain ⟨failure, isFailure⟩ := throws
      constructor
      · rintro ⟨-, reported⟩
        have none := reported failure isFailure
        exact ⟨by omega, fun isLanding => absurd isLanding lands⟩
      · rintro ⟨noneLost, -⟩
        exact ⟨by omega, fun _ _ => by omega⟩

/-- A swap is sent soundly if it is never sent, or if it is delivered. -/
theorem soundlySent_iff : SoundlySent env params fates ↔
    ∀ prepared, Prepares env params fates prepared → Delivered fates prepared.swap := by
  have untouched : Chain.start.Untouched := ⟨rfl, fun _ => rfl, fun _ => rfl⟩
  have prepares := @untouched_prepareSwap env params fates _ untouched
  unfold SoundlySent executePancakeSwap Prepares
  rcases ran : (prepareSwap env params).exec fates .start with ⟨after, failure | prepared⟩
  · rw [exec_bind_error ran]
    rw [ran] at prepares
    have none : after.landed = 0 := by
      unfold Chain.landed
      rw [prepares.noneSent]
      rfl
    refine iff_of_true ⟨none.le.trans zero_le_one, fun _ _ => none⟩ ?_
    rintro prepared ⟨other, isPrepared⟩
    cases ran.symm.trans isPrepared
  · rw [exec_bind_ok ran]
    rw [ran] at prepares
    refine (sendSwap_iff prepares).trans ⟨?_, fun delivered => delivered prepared ⟨after, ran⟩⟩
    rintro delivered other ⟨reached, isPrepared⟩
    cases ran.symm.trans isPrepared
    exact delivered

/-! ### A swap of one BNB -/

/-- The variables that are not set are left to their fallbacks. -/
def traderEnv : Env where
  defaultChain := none
  pancakeswapRouterAddress := none
  wbnbAddress := none
  maxSlippageBps := none
  maxSlippage := none
  pancakeGasBufferBps := none
  pancakeMinOutputHuman := none
  bscTraderPrivateKey := some ("0x" ++ String.ofList (List.replicate 64 '1'))
  hotWalletPrivateKey := none
  privateKey := none
  addressOf := fun _ => "0x19E7E376E7C213B7E7e7e46cc70A5dD086DAff2A"
  getAddress := .ok
  now := 1700000000

def sellBnb : PancakeSwapParams := ⟨"BNB", "USDT", 1⟩

/-- A market in which the attempts to send a swap end as given, and everything else is answered. -/
def market (sends : ℕ → Sending) : (op : Op) → Fate op
  | .send _ => sends
  | .wait _ => fun _ => .answered 5000
  | .getAmountsOut _ _ => fun _ => .ok [10 ^ 18, 600 * 10 ^ 18]
  | .getFeeData => fun _ => .ok (some 1000000000)
  | .allowance _ _ => fun _ => .ok 0
  | .approve _ _ => fun _ => .ok 0
  | .waitApproval _ => fun _ => .ok (some ⟨0, some 1, 4999⟩)
  | .estimateGas _ => fun _ => .ok 150000
  | .getBalance => fun _ => .ok (2 * 10 ^ 18)

/-- The response to the first attempt is lost. -/
def lostOnce : ℕ → Sending
  | 0 => .lost .lands "request timeout"
  | _ => .answered .lands

/-- Two swaps land, although one was asked for. -/
theorem not_soundlySent : ¬ SoundlySent traderEnv sellBnb (market lostOnce) := by
  rintro ⟨atMost, -⟩
  revert atMost
  decide +kernel

end GdslExchange.Pancake
