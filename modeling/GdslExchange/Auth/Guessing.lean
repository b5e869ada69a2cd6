/-
This file counts the wrong guesses at a password or at a verification code.

A request reads a counter, compares a guess and writes the counter back, so a
counter lags behind while a wrong guess is not counted yet. Where every guess
goes by a counter that has caught up, the counter covers the wrong guesses, and
the limit on the counter is a limit on them.
-/

import GdslExchange.Async.Contract
import GdslExchange.Auth.Routes
import Mathlib.Tactic.Linarith

namespace GdslExchange.Auth

open Async
open Async.Program
open Async.Contract

/-! ### Guesses in a log -/

/-- What is guessed at: the password of an account, or a code that was issued to it. -/
inductive Guess where
  | password (account : ℕ)
  | code (account : ℕ) (codeHash : String)
deriving DecidableEq

def Guess.account : Guess → ℕ
  | password account => account
  | code account _ => account

/-- What a comparison has found to be guessed wrong. -/
def wrongGuess : Event accounts → Option Guess
  | ⟨_, .comparePassword account _ _, _, .ok false⟩ => some (.password account)
  | ⟨_, .compareCode account _ codeHash, _, .ok false⟩ => some (.code account codeHash)
  | _ => none

/-- The write to an account that has taken effect. -/
def written : Event accounts → Option (ℕ × UserUpdate)
  | ⟨_, .updateUser id update, fate, _⟩ =>
    if Delivery.Applies fate.outcome then some (id, update) else none
  | _ => none

def accountRead : Event accounts → Option ℕ
  | ⟨_, .findUserByEmail _, _, .ok user⟩ => user.map Stored.id
  | ⟨_, .findUserByUsername _, _, .ok user⟩ => user.map Stored.id
  | ⟨_, .findUserById _, _, .ok user⟩ => user.map Stored.id
  | _ => none

namespace Guess

def Counts : Guess → ℕ × UserUpdate → Prop
  | password account, (id, .countFailure _ _) => id = account
  | code account _, (id, .countAttempt) => id = account
  | _, _ => False

/-- A write locks the account out. When the lockout is over guessing starts anew. -/
def Locks : Guess → ℕ × UserUpdate → Prop
  | password account, (id, .countFailure _ (some _)) => id = account
  | _, _ => False

/-- A write starts a new count: a lockout, or the reset after a right password or a verification. -/
def Resets : Guess → ℕ × UserUpdate → Prop
  | password account, (id, .countFailure _ (some _)) => id = account
  | password account, (id, .clearFailures) => id = account
  | password account, (id, .verify) => id = account
  | _, _ => False

instance (guess : Guess) : DecidablePred guess.Counts := fun write => by
  unfold Counts
  split <;> infer_instance

instance (guess : Guess) : DecidablePred guess.Locks := fun write => by
  unfold Locks
  split <;> infer_instance

instance (guess : Guess) : DecidablePred guess.Resets := fun write => by
  unfold Resets
  split <;> infer_instance

variable (guess : Guess)

/-- The wrong guesses since the last write of a kind. -/
def wrongsSince (restarts : ℕ × UserUpdate → Prop) [DecidablePred restarts] :
    List (Event accounts) → ℕ
  | [] => 0
  | event :: rest =>
    if ∃ write ∈ written event, restarts write then 0
    else if wrongGuess event = some guess then wrongsSince restarts rest + 1
    else wrongsSince restarts rest

/-- The wrong guesses at a code, or at a password since the last lockout. -/
def tries (log : List (Event accounts)) : ℕ := guess.wrongsSince guess.Locks log

/-- The wrong guesses since the count began. -/
def wrongs (log : List (Event accounts)) : ℕ := guess.wrongsSince guess.Resets log

/-- Of the wrong guesses since the last lockout some have been cleared from the count, by a right
password or a verification. -/
def Cleared : List (Event accounts) → Prop
  | [] => False
  | event :: rest => (¬ ∃ write ∈ written event, guess.Locks write) ∧
      ((∃ write ∈ written event, guess.Resets write) ∧ 0 < guess.tries rest ∨ Cleared rest)

/-- A caller has guessed wrong and its guess is not counted yet. -/
def Uncounted (caller : ℕ) : List (Event accounts) → Prop
  | [] => False
  | event :: rest => event.caller = caller ∧ wrongGuess event = some guess ∨
      ¬ (event.caller = caller ∧ ∃ write ∈ written event, guess.Counts write) ∧
        Uncounted caller rest

/-- All wrong guesses are counted. -/
def Settled (log : List (Event accounts)) : Prop :=
  ∀ event ∈ log, ¬ guess.Uncounted event.caller log

/-- When the caller read the account all wrong guesses were counted, and there was none since. -/
def Current (caller : ℕ) : List (Event accounts) → Prop
  | [] => False
  | event :: rest =>
    (event.caller = caller ∧ accountRead event = some guess.account ∧ guess.Settled rest) ∨
      wrongGuess event ≠ some guess ∧ Current caller rest

end Guess

/-- A wrong guess goes by a count that is current, and from which nothing was cleared since the last
lockout. -/
def Careful (step : Step accounts) : Prop :=
  ∀ guess ∈ wrongGuess step.event,
    guess.Current step.caller step.before.log ∧ ¬ guess.Cleared step.before.log

/-- A hash that is issued is a new one: hashing draws a salt. -/
def Salted (step : Step accounts) : Prop :=
  match step with
  | ⟨before, _, .updateUser id (.issueCode codeHash _ _), _⟩ =>
    ∀ event ∈ before.log, wrongGuess event ≠ some (.code id codeHash)
  | _ => True

/-! ### The count and the log -/

namespace Guess

variable {guess : Guess} {caller : ℕ} {event : Event accounts} {log : List (Event accounts)}

theorem mem_of_uncounted (uncounted : guess.Uncounted caller log) :
    ∃ event ∈ log, event.caller = caller := by
  induction log with
  | nil => exact uncounted.elim
  | cons event rest inductionHypothesis =>
    rcases uncounted with ⟨isCaller, -⟩ | ⟨-, older⟩
    · exact ⟨event, List.mem_cons_self, isCaller⟩
    · obtain ⟨other, member, isCaller⟩ := inductionHypothesis older
      exact ⟨other, List.mem_cons_of_mem _ member, isCaller⟩

theorem Settled.not_uncounted (settled : guess.Settled log) (caller : ℕ) :
    ¬ guess.Uncounted caller log := by
  intro uncounted
  obtain ⟨event, member, rfl⟩ := mem_of_uncounted uncounted
  exact settled event member uncounted

theorem settled_of_not_uncounted (none : ∀ caller, ¬ guess.Uncounted caller log) :
    guess.Settled log := fun event _ => none event.caller

theorem wrongGuess_of_read {account : ℕ} (isRead : accountRead event = some account) :
    wrongGuess event = none := by
  obtain ⟨other, op, fate, reply⟩ := event
  cases op <;> first | rfl | cases isRead

/-- If a count is current then all wrong guesses are counted. -/
theorem Current.settled (current : guess.Current caller log) : guess.Settled log := by
  refine settled_of_not_uncounted ?_
  induction log with
  | nil => exact current.elim
  | cons event rest inductionHypothesis =>
    have older : (∀ other, ¬ guess.Uncounted other rest) ∧ wrongGuess event ≠ some guess := by
      rcases current with ⟨-, isRead, settled⟩ | ⟨noGuess, older⟩
      · refine ⟨settled.not_uncounted, ?_⟩
        rw [wrongGuess_of_read isRead]
        exact nofun
      · exact ⟨inductionHypothesis older, noGuess⟩
    rintro other (⟨-, isWrong⟩ | ⟨-, uncounted⟩)
    · exact older.2 isWrong
    · exact older.1 other uncounted

theorem wrongs_cons : guess.wrongs (event :: log) =
    if ∃ write ∈ written event, guess.Resets write then 0
    else if wrongGuess event = some guess then guess.wrongs log + 1 else guess.wrongs log := rfl

theorem tries_cons : guess.tries (event :: log) =
    if ∃ write ∈ written event, guess.Locks write then 0
    else if wrongGuess event = some guess then guess.tries log + 1 else guess.tries log := rfl

theorem wrongsSince_cons_le {restarts : ℕ × UserUpdate → Prop} [DecidablePred restarts]
    (noGuess : wrongGuess event ≠ some guess) :
    guess.wrongsSince restarts (event :: log) ≤ guess.wrongsSince restarts log := by
  show (if ∃ write ∈ written event, restarts write then 0
    else if wrongGuess event = some guess then guess.wrongsSince restarts log + 1
    else guess.wrongsSince restarts log : ℕ) ≤ _
  split
  · exact Nat.zero_le _
  · exact le_rfl

theorem wrongs_cons_le (noGuess : wrongGuess event ≠ some guess) :
    guess.wrongs (event :: log) ≤ guess.wrongs log := wrongsSince_cons_le noGuess

variable {write : ℕ × UserUpdate}

theorem wrongs_of_reset (isWrite : written event = some write) (resets : guess.Resets write) :
    guess.wrongs (event :: log) = 0 :=
  if_pos ⟨write, isWrite, resets⟩

theorem wrongs_of_guess (isWrong : wrongGuess event = some guess) (unwritten : written event = none) :
    guess.wrongs (event :: log) = guess.wrongs log + 1 := by
  rw [wrongs_cons, if_pos isWrong, unwritten]
  exact if_neg nofun

/-- A lockout starts a new count. -/
theorem resets_of_locks (locks : guess.Locks write) :
    guess.Resets write := by
  obtain ⟨id, update⟩ := write
  cases guess with
  | password account =>
    cases update with
    | countFailure count lockout =>
      cases lockout with
      | none => exact locks.elim
      | some date => exact locks
    | _ => exact locks.elim
  | code account codeHash => exact locks.elim

theorem wrongGuess_of_written (isWritten : written event = some write) :
    wrongGuess event = none := by
  obtain ⟨caller, op, fate, reply⟩ := event
  cases op <;> first | rfl | cases isWritten

/-- Where nothing was cleared, the count is of all wrong guesses since the last lockout. -/
theorem tries_eq_wrongs (notCleared : ¬ guess.Cleared log) : guess.tries log = guess.wrongs log := by
  induction log with
  | nil => rfl
  | cons event rest inductionHypothesis =>
    rw [tries_cons, wrongs_cons]
    by_cases locks : ∃ write ∈ written event, guess.Locks write
    · have resets : ∃ write ∈ written event, guess.Resets write := by
        obtain ⟨write, isWritten, isLock⟩ := locks
        exact ⟨write, isWritten, resets_of_locks isLock⟩
      rw [if_pos locks, if_pos resets]
    · have older : guess.tries rest = guess.wrongs rest :=
        inductionHypothesis fun cleared => notCleared ⟨locks, Or.inr cleared⟩
      rw [if_neg locks]
      by_cases resets : ∃ write ∈ written event, guess.Resets write
      · have none : guess.tries rest = 0 :=
          Nat.eq_zero_of_not_pos fun some => notCleared ⟨locks, Or.inl ⟨resets, some⟩⟩
        have noGuess : wrongGuess event ≠ some guess := by
          obtain ⟨write, isWritten, -⟩ := resets
          rw [wrongGuess_of_written isWritten]
          exact nofun
        rw [if_pos resets, if_neg noGuess, none]
      · rw [if_neg resets, older]

theorem uncounted_cons_other (other : event.caller ≠ caller) :
    guess.Uncounted caller (event :: log) ↔ guess.Uncounted caller log := by
  constructor
  · rintro (⟨isCaller, -⟩ | ⟨-, uncounted⟩)
    · exact absurd isCaller other
    · exact uncounted
  · exact fun uncounted => Or.inr ⟨fun both => other both.1, uncounted⟩

/-- An event that neither guesses nor counts changes nothing. -/
theorem uncounted_cons_idle (noGuess : wrongGuess event ≠ some guess)
    (noCount : ¬ ∃ write ∈ written event, guess.Counts write) :
    guess.Uncounted caller (event :: log) ↔ guess.Uncounted caller log := by
  constructor
  · rintro (⟨-, isWrong⟩ | ⟨-, uncounted⟩)
    · exact absurd isWrong noGuess
    · exact uncounted
  · exact fun uncounted => Or.inr ⟨fun both => noCount both.2, uncounted⟩

theorem Current.of_cons (other : event.caller ≠ caller)
    (current : guess.Current caller (event :: log)) :
    wrongGuess event ≠ some guess ∧ guess.Current caller log := by
  rcases current with ⟨isCaller, -⟩ | older
  · exact absurd isCaller other
  · exact older

end Guess

/-! ### The counters -/

/-- The counter of an account for a guess: the failed logins, or the attempts at the code that it
has now. -/
def Guess.Tally (user : User) : Guess → ℕ → Prop
  | password _, count => user.failedLoginAttempts = count
  | code _ codeHash, count =>
    user.emailVerificationCodeHash = some codeHash ∧ user.emailVerificationAttempts = count

/-- The wrong guesses that are let through: `MAX_FAILED_LOGIN_ATTEMPTS` or `OTP_MAX_ATTEMPTS`. -/
def Guess.limit : Guess → ℕ
  | password _ => maxFailedLoginAttempts
  | code _ _ => otpMaxAttempts

theorem Guess.lt_limit (guess : Guess) {count : ℕ} (few : count ≤ 4) : count < guess.limit := by
  cases guess <;> exact Nat.lt_succ_of_le few

/-- The counter covers the wrong guesses once they are counted, and they are within the limit. A
code's counter is at most one behind, and a password's count is below the limit. -/
structure Guess.Covered (guess : Guess) (moment : Moment accounts) : Prop where
  alone : ∀ caller other, guess.Uncounted caller moment.log → guess.Uncounted other moment.log →
    caller = other
  bounded : guess.tries moment.log ≤ guess.limit
  settled : ∀ user count, moment.state.users[guess.account]? = some user →
    guess.Tally user count → guess.Settled moment.log →
    guess.wrongs moment.log ≤ count ∧ ∀ account, guess = .password account →
      guess.wrongs moment.log ≤ 4
  behind : ∀ user count account codeHash, guess = .code account codeHash →
    moment.state.users[guess.account]? = some user → guess.Tally user count →
    guess.wrongs moment.log ≤ count + 1

/-- No lockout of the account lasts beyond a date. -/
def Unlocked (account : ℕ) (date : Time) (store : Store) : Prop :=
  ∀ user, store.users[account]? = some user → ∀ lockout ∈ user.lockoutUntil, lockout ≤ date

/-- What the steps of the others leave to a caller. -/
structure Leaves (caller : ℕ) (before after : Moment accounts) : Prop where
  now : before.state.now ≤ after.state.now
  uncounted : ∀ guess : Guess, guess.Uncounted caller after.log ↔ guess.Uncounted caller before.log
  current : ∀ guess : Guess, guess.Current caller after.log →
    guess.Current caller before.log ∧ guess.wrongs after.log ≤ guess.wrongs before.log
  pending : ∀ guess : Guess, guess.Uncounted caller before.log →
    guess.wrongs after.log ≤ guess.wrongs before.log
  unlocked : ∀ account date, (Guess.password account).Current caller after.log →
    Unlocked account date before.state → Unlocked account date after.state

theorem Leaves.refl (caller : ℕ) (moment : Moment accounts) : Leaves caller moment moment where
  now := le_rfl
  uncounted _ := Iff.rfl
  current _ known := ⟨known, le_rfl⟩
  pending _ _ := le_rfl
  unlocked _ _ _ := id

theorem Leaves.trans {caller : ℕ} {first second third : Moment accounts}
    (head : Leaves caller first second) (tail : Leaves caller second third) :
    Leaves caller first third where
  now := head.now.trans tail.now
  uncounted guess := (tail.uncounted guess).trans (head.uncounted guess)
  current guess current := by
    obtain ⟨between, fewer⟩ := tail.current guess current
    obtain ⟨start, fewest⟩ := head.current guess between
    exact ⟨start, fewer.trans fewest⟩
  pending guess uncounted :=
    (tail.pending guess ((head.uncounted guess).mpr uncounted)).trans (head.pending guess uncounted)
  unlocked account date current unlocked :=
    tail.unlocked account date current
      (head.unlocked account date (tail.current _ current).1 unlocked)

/-- A wrong password is compared only when no lockout is in force, and a wrong guess is counted by
the one who made it. -/
def Proper (step : Step accounts) : Prop :=
  match step with
  | ⟨before, _, .comparePassword account _ _, fate⟩ =>
    fate.outcome = .ok false → Unlocked account (before.state.now + fate.elapsed) before.state
  | ⟨before, caller, .updateUser id (.countFailure _ _), _⟩ =>
    (Guess.password id).Uncounted caller before.log
  | _ => True

def counting : Contract accounts where
  allowed step := Careful step ∧ Salted step
  promised := Proper
  invariant moment := ∀ guess : Guess, guess.Covered moment
  rely := Leaves
  rely_refl := Leaves.refl
  rely_trans _ _ _ _ := Leaves.trans

/-! ### One step -/

section Steps

variable {step : Step accounts}

/-- A write that took effect is what has become of the users. -/
theorem users_after : step.after.state.users = (written step.event).elim step.before.state.users
    fun write => step.before.state.users.modify write.1 write.2.apply := by
  obtain ⟨before, caller, op, fate⟩ := step
  cases op with
  | updateUser id update =>
    show (if Delivery.Applies fate.outcome then _ else _ : Store).users = _
    unfold written Step.event
    simp only
    split <;> rfl
  | createSession session =>
    rcases @createSession_cases (before.state.tick fate.elapsed) fate.outcome session with
      same | ⟨-, created⟩
    · exact (congrArg Store.users same :)
    · exact (congrArg Store.users created :)
  | revokeSessions hash date =>
    exact @write_of (fun after => after.users = before.state.users) fate.outcome
      (before.state.tick fate.elapsed) _ rfl rfl
  | consumeRefreshGrace hash =>
    obtain ⟨entries, isStore, -⟩ :=
      consumeRefreshGrace_store hash (before.state.tick fate.elapsed)
    exact (congrArg Store.users isStore :)
  | _ => rfl

variable {account : ℕ} {user : User}

theorem user_after (found : step.after.state.users[account]? = some user) :
    ∃ old, step.before.state.users[account]? = some old ∧ (user = old ∨
      ∃ update, written step.event = some (account, update) ∧ user = update.apply old) := by
  rw [users_after] at found
  cases isWritten : written step.event with
  | none =>
    rw [isWritten] at found
    exact ⟨user, found, Or.inl rfl⟩
  | some write =>
    rw [isWritten] at found
    rw [Option.elim_some, List.getElem?_modify] at found
    obtain ⟨old, isOld, changed⟩ := Option.map_eq_some_iff.mp found
    refine ⟨old, isOld, ?_⟩
    by_cases same : write.1 = account
    · refine Or.inr ⟨write.2, by rw [← same], ?_⟩
      rw [if_pos same] at changed
      exact changed.symm
    · rw [if_neg same] at changed
      exact Or.inl changed.symm

theorem user_of_written {update : UserUpdate}
    (isWritten : written step.event = some (account, update))
    (found : step.after.state.users[account]? = some user) :
    ∃ old, step.before.state.users[account]? = some old ∧ user = update.apply old := by
  rw [users_after, isWritten, Option.elim_some, List.getElem?_modify_eq] at found
  obtain ⟨old, isOld, changed⟩ := Option.map_eq_some_iff.mp found
  exact ⟨old, isOld, changed.symm⟩

/-- What a write of a failed login relies on. -/
def CountsFailure (step : Step accounts) : Prop :=
  match step with
  | ⟨before, caller, .updateUser id (.countFailure count lockout), _⟩ =>
    (Guess.password id).Uncounted caller before.log ∧
      (lockout = none → (Guess.password id).wrongs before.log ≤ count ∧ count ≤ 4)
  | _ => True

theorem wrongs_eq_zero {codeHash : String} {log : List (Event accounts)}
    (unused : ∀ event ∈ log, wrongGuess event ≠ some (.code account codeHash)) :
    (Guess.code account codeHash).wrongs log = 0 := by
  induction log with
  | nil => rfl
  | cons event rest inductionHypothesis =>
    have older := inductionHypothesis fun other member => unused other (List.mem_cons_of_mem _ member)
    exact Nat.le_zero.mp ((Guess.wrongs_cons_le (unused event List.mem_cons_self)).trans older.le)

theorem op_of_written {event : Event accounts} {id : ℕ} {update : UserUpdate}
    (isWritten : written event = some (id, update)) : event.op = Op.updateUser id update := by
  obtain ⟨caller, op, fate, reply⟩ := event
  cases op with
  | updateUser other others =>
    unfold written at isWritten
    simp only at isWritten
    split at isWritten
    · cases isWritten
      rfl
    · cases isWritten
  | _ => cases isWritten

variable {guess : Guess}

theorem tally_after (salted : Salted step) {count : ℕ}
    (found : step.after.state.users[guess.account]? = some user) (tally : guess.Tally user count) :
    (∃ old, step.before.state.users[guess.account]? = some old ∧ guess.Tally old count) ∨
      guess.wrongs step.after.log = 0 ∨ (∃ write ∈ written step.event, guess.Counts write) := by
  obtain ⟨old, isOld, rfl | ⟨update, isWritten, rfl⟩⟩ := user_after found
  · exact Or.inl ⟨_, isOld, tally⟩
  · have isOp := op_of_written isWritten
    cases guess with
    | password account =>
      cases update with
      | issueCode codeHash expiresAt sentAt => exact Or.inl ⟨old, isOld, tally⟩
      | countAttempt => exact Or.inl ⟨old, isOld, tally⟩
      | countFailure count lockout => exact Or.inr (Or.inr ⟨_, isWritten, rfl⟩)
      | verify => exact Or.inr (Or.inl (Guess.wrongs_of_reset isWritten rfl))
      | clearFailures => exact Or.inr (Or.inl (Guess.wrongs_of_reset isWritten rfl))
    | code account codeHash =>
      cases update with
      | issueCode issued expiresAt sentAt =>
        obtain ⟨before, caller, op, fate⟩ := step
        have isUpdate : op = .updateUser account (.issueCode issued expiresAt sentAt) := isOp
        subst isUpdate
        obtain ⟨isHash, -⟩ := tally
        cases isHash
        have noGuess : ∀ reply, wrongGuess ⟨caller, .updateUser account
            (.issueCode codeHash expiresAt sentAt), fate, reply⟩ ≠ some (.code account codeHash) :=
          fun _ isGuess => by cases isGuess
        refine Or.inr (Or.inl (Nat.le_zero.mp ?_))
        exact (Guess.wrongs_cons_le (noGuess _)).trans (wrongs_eq_zero salted).le
      | countAttempt => exact Or.inr (Or.inr ⟨_, isWritten, rfl⟩)
      | countFailure count lockout => exact Or.inl ⟨old, isOld, tally⟩
      | verify =>
        obtain ⟨isHash, -⟩ := tally
        cases isHash
      | clearFailures => exact Or.inl ⟨old, isOld, tally⟩

theorem counts_cases {write : ℕ × UserUpdate} (isWritten : written step.event = some write)
    (counts : guess.Counts write) (failure : CountsFailure step) :
    (∃ account codeHash, guess = .code account codeHash ∧ write = (account, .countAttempt)) ∨
      ∃ account count lockout, guess = .password account ∧
        write = (account, .countFailure count lockout) ∧
        guess.Uncounted step.caller step.before.log ∧
        (lockout = none → guess.wrongs step.before.log ≤ count ∧ count ≤ 4) := by
  obtain ⟨id, update⟩ := write
  have isOp := op_of_written isWritten
  cases guess with
  | password account =>
    cases update with
    | countFailure count lockout =>
      obtain ⟨before, caller, op, fate⟩ := step
      have isUpdate : op = .updateUser id (.countFailure count lockout) := isOp
      subst isUpdate
      have same : id = account := counts
      subst same
      exact Or.inr ⟨id, count, lockout, rfl, rfl, failure.1, failure.2⟩
    | _ => exact counts.elim
  | code account codeHash =>
    cases update with
    | countAttempt =>
      have same : id = account := counts
      subst same
      exact Or.inl ⟨id, codeHash, rfl, rfl⟩
    | _ => exact counts.elim

theorem uncounted_before (noGuess : wrongGuess step.event ≠ some guess) {caller : ℕ}
    (uncounted : guess.Uncounted caller step.after.log) :
    guess.Uncounted caller step.before.log := by
  rcases uncounted with ⟨-, isWrong⟩ | ⟨-, older⟩
  · exact absurd isWrong noGuess
  · exact older

theorem covered_after (salted : Salted step) (failure : CountsFailure step)
    (noGuess : wrongGuess step.event ≠ some guess) (covered : guess.Covered step.before) :
    guess.Covered step.after := by
  have fewer : guess.wrongs step.after.log ≤ guess.wrongs step.before.log :=
    Guess.wrongs_cons_le noGuess
  refine ⟨fun caller other first second => ?_,
    (Guess.wrongsSince_cons_le noGuess).trans covered.bounded,
    fun user count found tally settled => ?_, fun user count account codeHash isCode found tally =>
      ?_⟩
  · exact covered.alone caller other (uncounted_before noGuess first)
      (uncounted_before noGuess second)
  · by_cases counting : ∃ write ∈ written step.event, guess.Counts write
    · obtain ⟨write, isWritten, counts⟩ := counting
      rcases counts_cases isWritten counts failure with ⟨account, codeHash, rfl, rfl⟩ |
        ⟨account, failures, lockout, rfl, rfl, -, relied⟩
      · obtain ⟨old, isOld, rfl⟩ := user_of_written isWritten found
        obtain ⟨isHash, rfl⟩ := tally
        exact ⟨fewer.trans (covered.behind old _ _ _ rfl isOld ⟨isHash, rfl⟩),
          fun _ impossible => by cases impossible⟩
      · obtain ⟨old, isOld, rfl⟩ := user_of_written isWritten found
        cases lockout with
        | none =>
          obtain ⟨enough, few⟩ := relied rfl
          have isCount : failures = count := tally
          rw [← isCount]
          exact ⟨fewer.trans enough, fun _ _ => fewer.trans (enough.trans few)⟩
        | some date =>
          rw [show (Guess.password account).wrongs step.after.log = 0 from
            Guess.wrongs_of_reset isWritten (show account = account from rfl)]
          exact ⟨Nat.zero_le _, fun _ _ => Nat.zero_le _⟩
    · rcases tally_after salted found tally with ⟨old, isOld, oldTally⟩ | none | counts
      · have was : guess.Settled step.before.log := Guess.settled_of_not_uncounted fun caller before =>
          settled.not_uncounted caller ((Guess.uncounted_cons_idle noGuess counting).mpr before)
        obtain ⟨enough, few⟩ := covered.settled old count isOld oldTally was
        exact ⟨fewer.trans enough, fun account isPassword => fewer.trans (few account isPassword)⟩
      · rw [none]
        exact ⟨Nat.zero_le _, fun _ _ => Nat.zero_le _⟩
      · exact absurd counts counting
  · rcases tally_after salted found tally with ⟨old, isOld, oldTally⟩ | none |
      ⟨write, isWritten, counts⟩
    · exact fewer.trans (covered.behind old count account codeHash isCode isOld oldTally)
    · rw [none]
      exact Nat.zero_le _
    · rcases counts_cases isWritten counts failure with ⟨other, hash, rfl, rfl⟩ |
        ⟨other, failures, lockout, rfl, -, -, -⟩
      · obtain ⟨old, isOld, rfl⟩ := user_of_written isWritten found
        obtain ⟨isHash, rfl⟩ := tally
        have behind := covered.behind old _ _ _ rfl isOld ⟨isHash, rfl⟩
        exact fewer.trans (behind.trans (Nat.le_succ _))
      · cases isCode

theorem wrongs_after_guess (isWrong : wrongGuess step.event = some guess)
    (unwritten : written step.event = none) :
    guess.wrongs step.after.log = guess.wrongs step.before.log + 1 :=
  Guess.wrongs_of_guess isWrong unwritten

theorem covered_after_guess (isWrong : wrongGuess step.event = some guess)
    (unwritten : written step.event = none)
    (current : guess.Current step.caller step.before.log)
    (notCleared : ¬ guess.Cleared step.before.log)
    (few : guess.wrongs step.before.log ≤ 4) (covered : guess.Covered step.before) :
    guess.Covered step.after := by
  have settled := current.settled
  have more := wrongs_after_guess isWrong unwritten
  have pending : guess.Uncounted step.caller step.after.log := Or.inl ⟨rfl, isWrong⟩
  have only : ∀ caller, guess.Uncounted caller step.after.log → caller = step.caller := by
    rintro caller (⟨isCaller, -⟩ | ⟨-, older⟩)
    · exact isCaller.symm
    · exact absurd older (settled.not_uncounted caller)
  refine ⟨fun caller other first second => (only caller first).trans (only other second).symm, ?_,
    fun user count _ _ isSettled => absurd pending (isSettled.not_uncounted _),
    fun user count account codeHash isCode found tally => ?_⟩
  · have tried : guess.tries step.after.log ≤ guess.tries step.before.log + 1 := by
      show guess.tries (step.event :: step.before.log) ≤ _
      rw [Guess.tries_cons, if_pos isWrong]
      split
      · exact Nat.zero_le _
      · exact le_rfl
    rw [Guess.tries_eq_wrongs notCleared] at tried
    exact tried.trans (guess.lt_limit few)
  · rw [users_after, unwritten] at found
    rw [more]
    exact Nat.succ_le_succ (covered.settled user count found tally settled).1

theorem now_le_after : step.before.state.now ≤ step.after.state.now := by
  show step.before.state.now ≤ (performNow step.op step.fate.outcome _).1.now
  rw [now_performNow]
  exact Int.le_add_of_nonneg_right (Int.natCast_nonneg _)

theorem leaves_after (careful : Careful step) (proper : Proper step) {other : ℕ}
    (different : other ≠ step.caller) :
    Leaves other step.before step.after := by
  have isOther : step.event.caller ≠ other := different.symm
  refine ⟨now_le_after, fun guess => Guess.uncounted_cons_other isOther, fun guess current => ?_,
    fun guess uncounted => ?_, fun account date current unlocked user found lockout isLocked => ?_⟩
  · obtain ⟨noGuess, older⟩ := current.of_cons isOther
    exact ⟨older, Guess.wrongs_cons_le noGuess⟩
  · refine Guess.wrongs_cons_le fun isWrong => ?_
    exact (careful guess isWrong).1.settled.not_uncounted other uncounted
  · obtain ⟨-, older⟩ := current.of_cons isOther
    obtain ⟨old, isOld, rfl | ⟨update, isWritten, rfl⟩⟩ := user_after found
    · exact unlocked _ isOld lockout isLocked
    · cases update with
      | issueCode codeHash expiresAt sentAt => exact unlocked old isOld lockout isLocked
      | countAttempt => exact unlocked old isOld lockout isLocked
      | countFailure count date =>
        obtain ⟨before, caller, op, fate⟩ := step
        have isUpdate : op = .updateUser account (.countFailure count date) :=
          op_of_written isWritten
        subst isUpdate
        exact absurd proper (older.settled.not_uncounted caller)
      | verify => cases isLocked
      | clearFailures => cases isLocked

theorem leaves_after_now {before : Moment accounts} {caller : ℕ} (fate : Fate .now) :
    Leaves caller before (Step.mk before caller .now fate : Step accounts).after := by
  have noGuess : ∀ guess : Guess, wrongGuess (Step.mk before caller .now fate :
      Step accounts).event ≠ some guess := fun _ isGuess => by cases isGuess
  have noCount : ∀ guess : Guess, ¬ ∃ write ∈ written (Step.mk before caller .now fate :
      Step accounts).event, guess.Counts write := by
    rintro guess ⟨write, isWritten, -⟩
    cases isWritten
  refine ⟨now_le_after, fun guess => Guess.uncounted_cons_idle (noGuess guess) (noCount guess),
    fun guess current => ⟨?_, Guess.wrongs_cons_le (noGuess guess)⟩,
    fun guess _ => Guess.wrongs_cons_le (noGuess guess), fun account date _ => id⟩
  rcases current with ⟨-, isRead, -⟩ | ⟨-, older⟩
  · cases isRead
  · exact older

end Steps

/-! ### Requests -/

section Requests

variable {caller : ℕ}

theorem respects_of_noGuess {step : Step accounts} (allowed : counting.allowed step)
    (proper : Proper step) (failure : CountsFailure step) (noGuess : wrongGuess step.event = none)
    (invariant : counting.invariant step.before) : counting.Respects step where
  promised := proper
  invariant guess := covered_after allowed.2 failure (by rw [noGuess]; exact nofun) (invariant guess)
  others _ := leaves_after allowed.1 proper

theorem respects_of_guess {step : Step accounts} {guess : Guess} (allowed : counting.allowed step)
    (proper : Proper step) (failure : CountsFailure step)
    (isWrong : wrongGuess step.event = some guess) (unwritten : written step.event = none)
    (few : guess.wrongs step.before.log ≤ 4) (invariant : counting.invariant step.before) :
    counting.Respects step where
  promised := proper
  invariant other := by
    by_cases same : guess = other
    · rw [← same]
      exact covered_after_guess isWrong unwritten (allowed.1 guess isWrong).1
        (allowed.1 guess isWrong).2 few (invariant guess)
    · refine covered_after allowed.2 failure (fun isOther => same ?_) (invariant other)
      exact Option.some.inj (isWrong.symm.trans isOther)
  others _ := leaves_after allowed.1 proper

/-- An operation that neither compares a secret nor counts a failed login. -/
def Guessless : Op → Prop
  | .comparePassword _ _ _ => False
  | .compareCode _ _ _ => False
  | .updateUser _ (.countFailure _ _) => False
  | _ => True

theorem guessless_of_routine (op : Op) (routine : Routine op) : Guessless op := by
  cases op with
  | comparePassword account password passwordHash => exact routine
  | compareCode account code codeHash => exact routine
  | updateUser id update =>
    cases update with
    | countFailure count lockout => exact routine
    | _ => trivial
  | _ => trivial

theorem respects_of_guessless {before : Moment accounts} {op : Op} {fate : Fate op}
    (guessless : Guessless op) (allowed : counting.allowed ⟨before, caller, op, fate⟩)
    (invariant : counting.invariant before) :
    counting.Respects ⟨before, caller, op, fate⟩ := by
  refine respects_of_noGuess allowed ?_ ?_ ?_ invariant
  · cases op with
    | updateUser id update =>
      cases update with
      | countFailure count lockout => exact guessless.elim
      | _ => trivial
    | comparePassword account password passwordHash => exact guessless.elim
    | _ => trivial
  · cases op with
    | updateUser id update =>
      cases update with
      | countFailure count lockout => exact guessless.elim
      | _ => trivial
    | _ => trivial
  · cases op with
    | comparePassword account password passwordHash => exact guessless.elim
    | compareCode account code codeHash => exact guessless.elim
    | _ => rfl

/-- An assertion that the others keep, and that a look at the clock keeps. -/
def Steady (caller : ℕ) (assertion : Moment accounts → Prop) : Prop :=
  ∀ before after, Leaves caller before after → assertion before → assertion after

theorem Steady.stable {assertion : Moment accounts → Prop} (steady : Steady caller assertion) :
    counting.Stable caller assertion := fun before after holds left _ => steady before after left holds

theorem triple_guessless {pre : Moment accounts → Prop} {Value : Type} {program : Call Value}
    (only : program.Only Guessless) :
    counting.Triple caller pre program anyOutcome := by
  refine (Triple.only (fun op guessless => ?_) only).weaken (fun _ _ => trivial) fun _ _ => id
  refine Triple.perform (fun _ _ _ _ _ => trivial) fun before fate _ invariant allowed => ?_
  exact ⟨respects_of_guessless guessless allowed invariant,
    outcome_intro (fun _ _ => trivial) fun _ _ => trivial⟩

theorem triple_routine {pre : Moment accounts → Prop} {Value : Type} {program : Call Value}
    (only : program.Only Routine) :
    counting.Triple caller pre program anyOutcome :=
  triple_guessless (only.mono guessless_of_routine)

theorem triple_date {assertion : Moment accounts → Prop} (steady : Steady caller assertion) :
    counting.Triple caller assertion (await .now)
      (outcome (fun date moment => date ≤ moment.state.now ∧ assertion moment)
        fun _ _ => True) := by
  refine Triple.perform steady.stable fun before fate holds invariant allowed => ?_
  refine ⟨respects_of_guessless trivial allowed invariant, outcome_intro (fun date isDate => ?_)
    fun _ _ => trivial⟩
  cases isDate
  exact ⟨le_rfl, steady _ _ (leaves_after_now fate) holds⟩

structure Knows (caller : ℕ) (user : Stored User) (moment : Moment accounts) : Prop where
  password : (Guess.password user.id).Current caller moment.log →
    (Guess.password user.id).wrongs moment.log ≤ user.row.failedLoginAttempts ∧
      (Guess.password user.id).wrongs moment.log ≤ 4
  unlocked : (Guess.password user.id).Current caller moment.log → ∀ date : Time,
    (∀ lockout ∈ user.row.lockoutUntil, lockout ≤ date) → Unlocked user.id date moment.state
  code : ∀ codeHash, user.row.emailVerificationCodeHash = some codeHash →
    (Guess.code user.id codeHash).Current caller moment.log →
    (Guess.code user.id codeHash).wrongs moment.log ≤ user.row.emailVerificationAttempts

theorem steady_knows (user : Stored User) : Steady caller (Knows caller user) := by
  intro before after left knows
  refine ⟨fun current => ?_, fun current date open' => ?_, fun codeHash isHash current => ?_⟩
  · obtain ⟨older, fewer⟩ := left.current _ current
    exact ⟨fewer.trans (knows.password older).1, fewer.trans (knows.password older).2⟩
  · exact left.unlocked user.id date current (knows.unlocked (left.current _ current).1 date open')
  · obtain ⟨older, fewer⟩ := left.current _ current
    exact fewer.trans (knows.code codeHash isHash older)

theorem knows_of_read {step : Step accounts} {user : Stored User}
    (isRead : accountRead step.event = some user.id) (unwritten : written step.event = none)
    (isRow : step.before.state.users[user.id]? = some user.row)
    (covered : counting.invariant step.before) : Knows step.caller user step.after := by
  have noGuess := Guess.wrongGuess_of_read isRead
  have fewer : ∀ guess : Guess, guess.wrongs step.after.log ≤ guess.wrongs step.before.log :=
    fun guess => Guess.wrongs_cons_le (by rw [noGuess]; exact nofun)
  have settled : ∀ guess : Guess, guess.Current step.caller step.after.log →
      guess.Settled step.before.log := by
    rintro guess (⟨-, -, isSettled⟩ | ⟨-, older⟩)
    · exact isSettled
    · exact older.settled
  refine ⟨fun current => ?_, fun current date open' other found => ?_,
    fun codeHash isHash current => ?_⟩
  · obtain ⟨enough, few⟩ := (covered (.password user.id)).settled user.row _ isRow rfl
      (settled _ current)
    exact ⟨(fewer _).trans enough, (fewer _).trans (few user.id rfl)⟩
  · rw [users_after, unwritten] at found
    obtain rfl : user.row = other := Option.some.inj (isRow.symm.trans found)
    exact open'
  · exact (fewer _).trans ((covered (.code user.id codeHash)).settled user.row _ isRow
      ⟨isHash, rfl⟩ (settled _ current)).1

theorem row_of_found {delivery : Delivery} {store : Store} {matching : User → Bool}
    {user : Stored User}
    (answered : (delivery.read store (store.findUser matching)).2 = .ok (some user)) :
    store.users[user.id]? = some user.row := by
  cases delivery with
  | answered => exact findUser_row (Except.ok.inj answered)
  | refused message => cases answered
  | lost message => cases answered

theorem triple_findUserByEmail (email : String) :
    counting.Triple caller (fun _ => True) (await (.findUserByEmail email))
      (outcome (fun found moment => ∀ user, found = some user → Knows caller user moment)
        fun _ _ => True) := by
  refine Triple.perform (fun _ _ _ _ _ => trivial) fun before fate _ invariant allowed => ?_
  refine ⟨respects_of_guessless trivial allowed invariant,
    outcome_intro (fun found answered user isUser => ?_) fun _ _ => trivial⟩
  subst isUser
  refine @knows_of_read ⟨before, caller, .findUserByEmail email, fate⟩ user ?_ rfl
    (row_of_found answered) invariant
  show accountRead ⟨caller, .findUserByEmail email, fate, _⟩ = some user.id
  rw [answered]
  rfl

theorem triple_findUserByUsername (username : String) :
    counting.Triple caller (fun _ => True) (await (.findUserByUsername username))
      (outcome (fun found moment => ∀ user, found = some user → Knows caller user moment)
        fun _ _ => True) := by
  refine Triple.perform (fun _ _ _ _ _ => trivial) fun before fate _ invariant allowed => ?_
  refine ⟨respects_of_guessless trivial allowed invariant,
    outcome_intro (fun found answered user isUser => ?_) fun _ _ => trivial⟩
  subst isUser
  refine @knows_of_read ⟨before, caller, .findUserByUsername username, fate⟩ user ?_ rfl
    (row_of_found answered) invariant
  show accountRead ⟨caller, .findUserByUsername username, fate, _⟩ = some user.id
  rw [answered]
  rfl

/-- A caller's wrong password that is not counted yet. -/
def Pending (caller : ℕ) (user : Stored User) (moment : Moment accounts) : Prop :=
  (Guess.password user.id).Uncounted caller moment.log ∧
    (Guess.password user.id).wrongs moment.log ≤ user.row.failedLoginAttempts + 1

theorem steady_pending (user : Stored User) : Steady caller (Pending caller user) :=
  fun _ _ left pending =>
    ⟨(left.uncounted _).mpr pending.1, (left.pending _ pending.1).trans pending.2⟩

/-- A password is compared while no lockout is in force. -/
theorem triple_comparePassword (user : Stored User) (password : String) (date : Time)
    (isOpen : ¬ LockedOut user.row date) :
    counting.Triple caller (fun moment => date ≤ moment.state.now ∧ Knows caller user moment)
      (await (.comparePassword user.id password user.row.passwordHash))
      (outcome (fun valid moment => valid = false → Pending caller user moment)
        fun _ _ => True) := by
  have steady : Steady caller fun moment => date ≤ moment.state.now ∧ Knows caller user moment :=
    fun _ _ left known => ⟨known.1.trans left.now, steady_knows user _ _ left known.2⟩
  refine Triple.perform steady.stable fun before fate known invariant allowed => ?_
  obtain ⟨reached, knows⟩ := known
  obtain ⟨elapsed, answer⟩ := fate
  have proper : Proper ⟨before, caller, .comparePassword user.id password user.row.passwordHash,
      elapsed, answer⟩ := by
    intro isWrong
    obtain rfl : answer = .ok false := isWrong
    refine knows.unlocked (allowed.1 _ rfl).1 _ fun lockout isLockout => ?_
    have isOver : lockout ≤ date := not_lt.mp fun later => isOpen ⟨lockout, isLockout, later⟩
    exact (isOver.trans reached).trans (Int.le_add_of_nonneg_right (Int.natCast_nonneg _))
  cases answer with
  | error message =>
    exact ⟨respects_of_noGuess allowed proper trivial rfl invariant,
      outcome_intro (fun _ impossible => by cases impossible) fun _ _ => trivial⟩
  | ok valid =>
    cases valid with
    | true =>
      refine ⟨respects_of_noGuess allowed proper trivial rfl invariant,
        outcome_intro (fun valid isValid isWrong => ?_) fun _ _ => trivial⟩
      cases isValid
      cases isWrong
    | false =>
      obtain ⟨enough, few⟩ := knows.password (allowed.1 _ rfl).1
      refine ⟨respects_of_guess allowed proper trivial rfl rfl few invariant,
        outcome_intro (fun _ _ _ => ⟨Or.inl ⟨rfl, rfl⟩, ?_⟩) fun _ _ => trivial⟩
      exact (@wrongs_after_guess ⟨before, caller, .comparePassword user.id password
        user.row.passwordHash, elapsed, .ok false⟩ _ rfl rfl).le.trans (Nat.succ_le_succ enough)

/-- A wrong password is counted, or locks the account. -/
theorem triple_countFailure (user : Stored User) :
    counting.Triple caller (Pending caller user) (countFailure user) anyOutcome := by
  refine Triple.bind (triple_date (steady_pending user)) fun date => ?_
  have steady : Steady caller fun moment => date ≤ moment.state.now ∧ Pending caller user moment :=
    fun _ _ left known => ⟨known.1.trans left.now, steady_pending user _ _ left known.2⟩
  split
  · refine Triple.perform steady.stable fun before fate known invariant allowed => ?_
    exact ⟨respects_of_noGuess allowed known.2.1 ⟨known.2.1, nofun⟩ rfl invariant,
      outcome_intro (fun _ _ => trivial) fun _ _ => trivial⟩
  · rename_i few
    refine Triple.perform steady.stable fun before fate known invariant allowed => ?_
    have counted : user.row.failedLoginAttempts + 1 ≤ 4 := Nat.lt_succ_iff.mp (not_le.mp few)
    exact ⟨respects_of_noGuess allowed known.2.1 ⟨known.2.1, fun _ => ⟨known.2.2, counted⟩⟩ rfl
      invariant, outcome_intro (fun _ _ => trivial) fun _ _ => trivial⟩

variable {tokenHash : String → String}

theorem triple_login (identifier password : String) :
    counting.Triple caller (fun _ => True) (login tokenHash identifier password) anyOutcome := by
  unfold login
  split
  · exact triple_routine trivial
  · have reads : counting.Triple caller (fun _ => True) (findAccount identifier)
        (outcome (fun found moment => ∀ user, found = some user → Knows caller user moment)
          fun _ _ => True) := by
      unfold findAccount
      split
      · exact triple_findUserByEmail identifier
      · exact triple_findUserByUsername identifier
    refine Triple.bind reads fun found => ?_
    cases found with
    | none => exact triple_routine trivial
    | some user =>
      refine Triple.bind ((triple_date (steady_knows user)).weaken (fun _ known => known user rfl)
        fun _ _ => id) fun date => ?_
      split
      · exact triple_routine trivial
      · rename_i isOpen
        refine Triple.bind (triple_comparePassword user password date isOpen) fun valid => ?_
        split
        · rename_i isWrong
          refine Triple.bind ((triple_countFailure user).weaken (fun _ known => known isWrong)
            fun _ _ => id) fun _ => triple_routine trivial
        · split
          · exact triple_routine (routine_askForVerification user)
          · exact triple_routine (only_then (by exact trivial) fun _ =>
              routine_openSession user _)

/-- A code that may be tried is the user's, and was not tried too often. -/
theorem openCode_ok {user : User} {date : Time} {codeHash : String}
    (isOpen : openCode user date = .ok codeHash) :
    user.emailVerificationCodeHash = some codeHash ∧ user.emailVerificationAttempts ≤ 4 := by
  unfold openCode at isOpen
  split at isOpen
  · cases isOpen
  · split at isOpen
    · rename_i hash expiresAt isHash _
      split at isOpen
      · cases isOpen
      · split at isOpen
        · cases isOpen
        · rename_i few
          cases isOpen
          exact ⟨(Option.filter_eq_some_iff.mp isHash).1, Nat.lt_succ_iff.mp (not_le.mp few)⟩
    · cases isOpen

theorem triple_compareCode (user : Stored User) (code codeHash : String)
    (isHash : user.row.emailVerificationCodeHash = some codeHash)
    (few : user.row.emailVerificationAttempts ≤ 4) :
    counting.Triple caller (Knows caller user) (await (.compareCode user.id code codeHash))
      anyOutcome := by
  refine Triple.perform (steady_knows user).stable fun before fate knows invariant allowed => ?_
  refine ⟨?_, outcome_intro (fun _ _ => trivial) fun _ _ => trivial⟩
  obtain ⟨elapsed, answer⟩ := fate
  cases answer with
  | error message => exact respects_of_noGuess allowed trivial trivial rfl invariant
  | ok isRight =>
    cases isRight with
    | true => exact respects_of_noGuess allowed trivial trivial rfl invariant
    | false =>
      have counted := knows.code codeHash isHash (allowed.1 _ rfl).1
      exact respects_of_guess allowed trivial trivial rfl rfl (counted.trans few) invariant

theorem triple_verifyEmail (email code : String) :
    counting.Triple caller (fun _ => True) (verifyEmail tokenHash email code) anyOutcome := by
  refine Triple.bind (triple_findUserByEmail email) fun found => ?_
  cases found with
  | none => exact triple_routine trivial
  | some user =>
    refine Triple.bind ((triple_date (steady_knows user)).weaken (fun _ known => known user rfl)
      fun _ _ => id) fun date => ?_
    cases isOpen : openCode user.row date with
    | error response => exact triple_routine trivial
    | ok codeHash =>
      obtain ⟨isHash, few⟩ := openCode_ok isOpen
      have compares : counting.Triple caller (fun moment => date ≤ moment.state.now ∧
          Knows caller user moment) (verifyOtpCode user.id code codeHash) anyOutcome := by
        unfold verifyOtpCode
        split
        · exact triple_routine trivial
        · exact (triple_compareCode user code codeHash isHash few).weaken (fun _ known => known.2)
            fun _ _ => id
      refine Triple.bind compares fun isMatch => triple_routine ?_
      split
      · exact only_then (by exact trivial) fun _ => trivial
      · exact only_then (by exact trivial) fun _ => routine_openSession user _

theorem guessless_revoke (refreshToken : String) :
    (revokeRefreshSessionByToken tokenHash refreshToken).Only Guessless :=
  only_then (by exact trivial) fun _ => only_perform (by exact trivial)

theorem guessless_matchToken (refreshToken : String) :
    (matchToken tokenHash refreshToken).Only Guessless := by
  refine only_then (by exact trivial) fun payload => ?_
  cases payload with
  | none => trivial
  | some userId =>
    refine only_then (by exact trivial) fun user => ?_
    cases user with
    | none => trivial
    | some user =>
      refine only_then (by exact trivial) fun date => ?_
      refine only_then (by exact trivial) fun session => ?_
      split
      · trivial
      · exact (routine_matchGrace refreshToken user).mono guessless_of_routine

theorem guessless_firstMatch (candidates : List String) :
    (firstMatch tokenHash candidates).Only Guessless := by
  induction candidates with
  | nil => trivial
  | cons refreshToken rest inductionHypothesis =>
    refine only_bind (guessless_matchToken refreshToken) fun found => ?_
    cases found with
    | none => exact inductionHypothesis
    | some matched => trivial

theorem guessless_redeem (candidates : List String) (found : Matched) :
    (redeem tokenHash candidates found).Only Guessless := by
  have retires : (retire tokenHash candidates found).Only Guessless := by
    unfold retire
    split
    · trivial
    · refine only_then (by exact trivial) fun _ => ?_
      refine only_bind (guessless_revoke found.refreshToken) fun _ => ?_
      exact only_forEach fun other _ => guessless_revoke other
  refine only_bind retires fun _ => only_then (by exact trivial) fun next => ?_
  refine only_bind ?_ fun _ => only_then (by exact trivial) fun _ => trivial
  exact (routine_createRefreshSession found.userId next).mono guessless_of_routine

theorem guessless_refresh (candidates : List String) :
    (refresh tokenHash candidates).Only Guessless := by
  unfold refresh
  split
  · trivial
  · refine only_bind (guessless_firstMatch candidates) fun found => ?_
    cases found with
    | none => trivial
    | some matched => exact guessless_redeem candidates matched

theorem guessless_logout (refreshTokens : List String) :
    (logout tokenHash refreshTokens).Only Guessless :=
  only_bind (only_forEach fun refreshToken _ => guessless_revoke refreshToken) fun _ => trivial

theorem counting_call (request : Request) :
    counting.Triple caller (fun _ => True) (request.call tokenHash) anyOutcome := by
  cases request with
  | verifyEmail email code => exact triple_verifyEmail email code
  | resendOtp email => exact triple_routine (routine_resendOtp email)
  | login identifier password => exact triple_login identifier password
  | refresh refreshTokens => exact triple_guessless (guessless_refresh refreshTokens)
  | logout refreshTokens => exact triple_guessless (guessless_logout refreshTokens)

end Requests

/-! ### Runs -/

/-- At most `OTP_MAX_ATTEMPTS` wrong codes were compared with one that was issued. -/
def CodesBounded (log : List (Event accounts)) : Prop :=
  ∀ account codeHash, (Guess.code account codeHash).tries log ≤ otpMaxAttempts

/-- At most `MAX_FAILED_LOGIN_ATTEMPTS` wrong passwords were compared since the last lockout. -/
def PasswordsBounded (log : List (Event accounts)) : Prop :=
  ∀ account, (Guess.password account).tries log ≤ maxFailedLoginAttempts

/-- A wrong password is not compared before the lockout of its account is over. -/
def WaitsForExpiry (step : Step accounts) : Prop :=
  ∀ account, wrongGuess step.event = some (.password account) →
    Unlocked account step.after.state.now step.before.state

theorem waitsForExpiry_of_proper {step : Step accounts} (proper : Proper step) :
    WaitsForExpiry step := by
  intro account isWrong
  obtain ⟨before, caller, op, elapsed, answer⟩ := step
  cases op with
  | comparePassword other password passwordHash =>
    cases answer with
    | error message => cases isWrong
    | ok isRight =>
      cases isRight with
      | true => cases isWrong
      | false =>
        cases isWrong
        exact proper rfl
  | compareCode other code codeHash =>
    cases answer with
    | error message => cases isWrong
    | ok isRight => cases isRight <;> cases isWrong
  | _ => cases isWrong

variable {tokenHash : String → String} {users : List User} {now : Time} {requests : List Request}

theorem covered_nil (guess : Guess) (store : Store) : guess.Covered ⟨store, []⟩ where
  alone _ _ uncounted _ := uncounted.elim
  bounded := Nat.zero_le _
  settled _ _ _ _ _ := ⟨Nat.zero_le _, fun _ _ => Nat.zero_le _⟩
  behind _ _ _ _ _ _ _ := Nat.zero_le _

theorem counting_serving :
    counting.Holds (fun _ _ _ => True) (serving tokenHash users now requests) :=
  ⟨fun guess => covered_nil guess _, System.each_call fun _ request =>
    (counting_call request _ trivial).mono fun _ _ _ => trivial⟩

/-- Where every wrong guess goes by a count that has caught up, guessing is bounded. Wrong passwords
are compared outside of the lockouts only, so that those since the last lockout are those since its
expiry. -/
theorem guessing_bounded (tokenHash : String → String) (users : List User) (now : Time)
    (requests : List Request) (turns : List (Turn accounts))
    (salted : ∀ step ∈ (serving tokenHash users now requests).steps turns, Salted step)
    (careful : ∀ step ∈ (serving tokenHash users now requests).steps turns, Careful step) :
    CodesBounded ((serving tokenHash users now requests).run turns).moment.log ∧
      PasswordsBounded ((serving tokenHash users now requests).run turns).moment.log ∧
      ∀ step ∈ (serving tokenHash users now requests).steps turns, WaitsForExpiry step := by
  obtain ⟨last, respects⟩ := sound (fun _ _ _ _ _ _ _ => trivial) counting_serving turns
    fun step member => ⟨careful step member, salted step member⟩
  refine ⟨fun account codeHash => (last.invariant (.code account codeHash)).bounded,
    fun account => (last.invariant (.password account)).bounded, fun step member => ?_⟩
  exact waitsForExpiry_of_proper (respects step member).promised

/-! ### Examples of runs -/

section Decidable

variable (guess : Guess) (caller : ℕ)

instance decidableCleared : (log : List (Event accounts)) → Decidable (guess.Cleared log)
  | [] => inferInstanceAs (Decidable False)
  | _ :: rest =>
    have := decidableCleared rest
    inferInstanceAs (Decidable (_ ∧ (_ ∧ _ ∨ _)))

instance decidableUncounted : (log : List (Event accounts)) → Decidable (guess.Uncounted caller log)
  | [] => inferInstanceAs (Decidable False)
  | _ :: rest =>
    have := decidableUncounted rest
    inferInstanceAs (Decidable (_ ∧ _ ∨ _ ∧ _))

instance (log : List (Event accounts)) : Decidable (guess.Settled log) :=
  inferInstanceAs (Decidable (∀ event ∈ log, ¬ guess.Uncounted event.caller log))

instance decidableCurrent : (log : List (Event accounts)) → Decidable (guess.Current caller log)
  | [] => inferInstanceAs (Decidable False)
  | _ :: rest =>
    have := decidableCurrent rest
    inferInstanceAs (Decidable (_ ∧ _ ∧ _ ∨ _ ∧ _))

instance : DecidablePred Careful := fun step =>
  match isGuess : wrongGuess step.event with
  | none => isTrue fun guess member => by rw [isGuess] at member; cases member
  | some guess =>
    decidable_of_iff (guess.Current step.caller step.before.log ∧ ¬ guess.Cleared step.before.log)
      ⟨fun holds other member => by rw [isGuess] at member; cases member; exact holds,
        fun holds => holds guess isGuess⟩

instance : DecidablePred Salted := fun step => by
  unfold Salted
  split <;> infer_instance

end Decidable

/-- Every guess is wrong, and everything else is answered. -/
def refusals : (op : Op) → Outcome op
  | .now => ()
  | .findUserByEmail _ | .findUserByUsername _ | .findUserById _ | .updateUser _ _
  | .createSession _ | .findSession _ _ _ | .findRecentlyRevoked _ _ _ | .revokeSessions _ _ =>
    Delivery.answered
  | .comparePassword _ _ _ => .ok false
  | .compareCode _ _ _ => .ok false
  | .generateOtpCode => "123456"
  | .hashOtpCode _ => .ok "second hash"
  | .sendVerificationEmail _ _ => .ok ()
  | .verifyRefreshJwt _ => none
  | .signRefresh _ _ => "token"
  | .rememberRefreshGrace _ _ _ | .consumeRefreshGrace _ => ()

/-- Some turns of a request, the first after a while. -/
def refused (caller count elapsed : ℕ) : List (Turn accounts) :=
  ⟨caller, fun op => ⟨elapsed, refusals op⟩⟩ ::
    List.replicate count ⟨caller, fun op => ⟨0, refusals op⟩⟩

/-- A user who has been sent a code. -/
def newUser : User :=
  ⟨"user@example.org", none, "password hash", false, some "first hash", some 900000, 0, some 0, 0,
    none⟩

/-- Six passwords and six codes. -/
def guesses : List Request :=
  List.replicate 6 (.login "user@example.org" "guess") ++
    List.replicate 6 (.verifyEmail "user@example.org" "000000")

/-- All guesses are compared before one is counted. -/
def overlap : List (Turn accounts) := (List.range 12).flatMap fun caller => refused caller 2 0

/-- A code, a new code and a guess at it; five passwords that lock the account, one that is refused
and one when the lockout is over. -/
def patient : List Request :=
  [.verifyEmail "user@example.org" "000000", .resendOtp "user@example.org",
      .verifyEmail "user@example.org" "000000"] ++
    List.replicate 7 (.login "user@example.org" "guess")

def patience : List (Turn accounts) :=
  refused 0 3 0 ++ refused 1 6 60000 ++ refused 2 3 0 ++
    (List.range 6).flatMap (fun caller => refused (caller + 3) 4 0) ++ refused 9 4 900001

/-- Guesses that come one after another are bounded. -/
theorem guessing_bounded_patience :
    CodesBounded ((serving id [newUser] 0 patient).run patience).moment.log ∧
      PasswordsBounded ((serving id [newUser] 0 patient).run patience).moment.log ∧
      ∀ step ∈ (serving id [newUser] 0 patient).steps patience, WaitsForExpiry step :=
  guessing_bounded id [newUser] 0 patient patience (by decide +kernel) (by decide +kernel)

/-- Guesses that overlap are not. -/
theorem not_guessing_bounded :
    (¬ ∀ (tokenHash : String → String) (users : List User) (now : Time) (requests : List Request)
      (turns : List (Turn accounts)),
      CodesBounded ((serving tokenHash users now requests).run turns).moment.log) ∧
    ¬ ∀ (tokenHash : String → String) (users : List User) (now : Time) (requests : List Request)
      (turns : List (Turn accounts)),
      PasswordsBounded ((serving tokenHash users now requests).run turns).moment.log := by
  constructor
  · intro always
    have six : (Guess.code 0 "first hash").tries
        ((serving id [newUser] 0 guesses).run overlap).moment.log = 6 := by decide +kernel
    have bounded := always id [newUser] 0 guesses overlap 0 "first hash"
    rw [six] at bounded
    exact absurd bounded (by decide)
  · intro always
    have six : (Guess.password 0).tries
        ((serving id [newUser] 0 guesses).run overlap).moment.log = 6 := by decide +kernel
    have bounded := always id [newUser] 0 guesses overlap 0
    rw [six] at bounded
    exact absurd bounded (by decide)

end GdslExchange.Auth
