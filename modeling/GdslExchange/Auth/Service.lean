/-
This file models what the routes of the accounts call: the users and refresh
sessions of the database, the map of the tokens that were rotated a moment ago,
the clock, and the libraries that hash, sign and send.

Every answer takes a while: the fate of an operation says how long, and the
clock moves on before the operation takes effect. What the libraries answer is
part of the fate too. Rows are kept in creation order and a row's id is its
position. The log names the account whose secret is compared.
-/

import GdslExchange.Async.Program
import GdslExchange.Async.Delivery
import Mathlib.Data.Int.Order.Basic

namespace GdslExchange.Auth

open Async (Delivery Stored)

/-- What `Date.now()` counts: milliseconds. -/
abbrev Time := ℤ

/-! ### Rows -/

structure User where
  email : String
  username : Option String
  passwordHash : String
  emailVerified : Bool
  emailVerificationCodeHash : Option String
  emailVerificationExpiresAt : Option Time
  emailVerificationAttempts : ℕ
  emailVerificationLastSentAt : Option Time
  failedLoginAttempts : ℕ
  lockoutUntil : Option Time

structure AuthSession where
  userId : ℕ
  refreshTokenHash : String
  expiresAt : Time
  revokedAt : Option Time
deriving DecidableEq

/-- A value of `refreshGraceByHash`. -/
structure RefreshGrace where
  userId : ℕ
  email : String
  untilTime : Time

/-- The database, the map of one server process, in the order of its insertions, and the time. -/
structure Store where
  users : List User
  sessions : List AuthSession
  refreshGraceByHash : List (String × RefreshGrace)
  now : Time

/-- The columns that the routes write together. -/
inductive UserUpdate where
  | issueCode (codeHash : String) (expiresAt sentAt : Time)
  | countAttempt
  | verify
  | countFailure (failedLoginAttempts : ℕ) (lockoutUntil : Option Time)
  | clearFailures
deriving DecidableEq

def UserUpdate.apply : UserUpdate → User → User
  | issueCode codeHash expiresAt sentAt, user =>
    { user with
      emailVerificationCodeHash := some codeHash
      emailVerificationExpiresAt := some expiresAt
      emailVerificationAttempts := 0
      emailVerificationLastSentAt := some sentAt }
  | countAttempt, user =>
    { user with emailVerificationAttempts := user.emailVerificationAttempts + 1 }
  | verify, user =>
    { user with
      emailVerified := true
      emailVerificationCodeHash := none
      emailVerificationExpiresAt := none
      emailVerificationAttempts := 0
      failedLoginAttempts := 0
      lockoutUntil := none }
  | countFailure failedLoginAttempts lockoutUntil, user =>
    { user with failedLoginAttempts := failedLoginAttempts, lockoutUntil := lockoutUntil }
  | clearFailures, user => { user with failedLoginAttempts := 0, lockoutUntil := none }

/-! ### The grace of a rotated token -/

def refreshGraceMs : Time := 45000

/-- `Map.set`: a new value for a key that is there, or a new entry at the end. -/
def setEntry (key : String) (value : RefreshGrace) (entries : List (String × RefreshGrace)) :
    List (String × RefreshGrace) :=
  if entries.any fun entry => entry.1 = key then
    entries.map fun entry => if entry.1 = key then (key, value) else entry
  else entries ++ [(key, value)]

def rememberRefreshGrace (hash : String) (userId : ℕ) (email : String) (store : Store) : Store :=
  let entries := setEntry hash ⟨userId, email, store.now + refreshGraceMs⟩ store.refreshGraceByHash
  { store with
    refreshGraceByHash := if entries.length > 500 then
      entries.filter fun entry => ¬ entry.2.untilTime < store.now
    else entries }

def consumeRefreshGrace (hash : String) (store : Store) : Store × Option RefreshGrace :=
  match store.refreshGraceByHash.find? fun entry => entry.1 = hash with
  | none => (store, none)
  | some entry =>
    if entry.2.untilTime < store.now then
      ({ store with refreshGraceByHash :=
          store.refreshGraceByHash.filter fun other => other.1 ≠ hash }, none)
    else (store, some entry.2)

/-- A lookup may drop entries of the map and does nothing else. -/
theorem consumeRefreshGrace_store (hash : String) (store : Store) :
    ∃ entries, (consumeRefreshGrace hash store).1 =
        { store with refreshGraceByHash := entries } ∧
      ∀ entry ∈ entries, entry ∈ store.refreshGraceByHash := by
  unfold consumeRefreshGrace
  split
  · exact ⟨_, rfl, fun _ => id⟩
  · split
    · exact ⟨_, rfl, fun _ member => (List.mem_filter.mp member).1⟩
    · exact ⟨_, rfl, fun _ => id⟩

/-- A lookup that finds something finds an entry that is still good. -/
theorem consumeRefreshGrace_found {hash : String} {store : Store} {grace : RefreshGrace}
    (found : (consumeRefreshGrace hash store).2 = some grace) :
    (hash, grace) ∈ store.refreshGraceByHash ∧ store.now ≤ grace.untilTime := by
  unfold consumeRefreshGrace at found
  split at found
  · cases found
  · rename_i entry isEntry
    split at found
    · cases found
    · rename_i good
      cases found
      have named := List.find?_some isEntry
      rw [decide_eq_true_eq] at named
      rw [← named]
      exact ⟨List.mem_of_find?_eq_some isEntry, not_lt.mp good⟩

/-- What is remembered is good for a while from now; nothing else is new. -/
theorem mem_rememberRefreshGrace {hash email : String} {userId : ℕ} {store : Store}
    {entry : String × RefreshGrace}
    (member : entry ∈ (rememberRefreshGrace hash userId email store).refreshGraceByHash) :
    entry ∈ store.refreshGraceByHash ∨
      entry = (hash, ⟨userId, email, store.now + refreshGraceMs⟩) := by
  have inSet : entry ∈ setEntry hash ⟨userId, email, store.now + refreshGraceMs⟩
      store.refreshGraceByHash := by
    unfold rememberRefreshGrace at member
    simp only at member
    split at member
    · exact (List.mem_filter.mp member).1
    · exact member
  unfold setEntry at inSet
  split at inSet
  · obtain ⟨old, isOld, changed⟩ := List.mem_map.mp inSet
    split at changed
    · exact Or.inr changed.symm
    · exact Or.inl (changed ▸ isOld)
  · rcases List.mem_append.mp inSet with old | isNew
    · exact Or.inl old
    · exact Or.inr (List.mem_singleton.mp isNew)

/-! ### Sessions -/

/-- `revokeRefreshSessionByToken`, on one row. -/
def AuthSession.revoke (session : AuthSession) (hash : String) (date : Time) : AuthSession :=
  if session.refreshTokenHash = hash ∧ session.revokedAt = none then
    { session with revokedAt := some date }
  else session

def Store.revoke (store : Store) (hash : String) (date : Time) : Store :=
  { store with sessions := store.sessions.map fun session => session.revoke hash date }

/-- A session that a refresh token opens. -/
def AuthSession.Valid (session : AuthSession) (userId : ℕ) (hash : String) (date : Time) : Prop :=
  session.userId = userId ∧ session.refreshTokenHash = hash ∧ session.revokedAt = none ∧
    session.expiresAt > date

instance (session : AuthSession) (userId : ℕ) (hash : String) (date : Time) :
    Decidable (session.Valid userId hash date) :=
  inferInstanceAs (Decidable (_ ∧ _ ∧ _ ∧ _))

/-- A session that was revoked at some date or later. -/
def AuthSession.RevokedSince (session : AuthSession) (userId : ℕ) (hash : String)
    (since : Time) : Prop :=
  session.userId = userId ∧ session.refreshTokenHash = hash ∧
    ∃ revoked ∈ session.revokedAt, since ≤ revoked

instance (session : AuthSession) (userId : ℕ) (hash : String) (since : Time) :
    Decidable (session.RevokedSince userId hash since) :=
  inferInstanceAs (Decidable (_ ∧ _ ∧ ∃ revoked ∈ session.revokedAt, since ≤ revoked))

/-! ### Operations -/

inductive Op where
  | now
  | findUserByEmail (email : String)
  | findUserByUsername (username : String)
  | findUserById (id : ℕ)
  | updateUser (id : ℕ) (update : UserUpdate)
  | comparePassword (account : ℕ) (password passwordHash : String)
  | compareCode (account : ℕ) (code codeHash : String)
  | generateOtpCode
  | hashOtpCode (code : String)
  | sendVerificationEmail (email code : String)
  | verifyRefreshJwt (refreshToken : String)
  | signRefresh (userId : ℕ) (email : String)
  | createSession (session : AuthSession)
  | findSession (userId : ℕ) (hash : String) (date : Time)
  | findRecentlyRevoked (userId : ℕ) (hash : String) (since : Time)
  | revokeSessions (hash : String) (date : Time)
  | rememberRefreshGrace (hash : String) (userId : ℕ) (email : String)
  | consumeRefreshGrace (hash : String)
deriving DecidableEq

@[reducible] def Result : Op → Type
  | .now => Time
  | .findUserByEmail _ => Option (Stored User)
  | .findUserByUsername _ => Option (Stored User)
  | .findUserById _ => Option (Stored User)
  | .comparePassword _ _ _ => Bool
  | .compareCode _ _ _ => Bool
  | .generateOtpCode => String
  | .hashOtpCode _ => String
  | .verifyRefreshJwt _ => Option ℕ
  | .signRefresh _ _ => String
  | .findSession _ _ _ => Option AuthSession
  | .findRecentlyRevoked _ _ _ => Option AuthSession
  | .consumeRefreshGrace _ => Option RefreshGrace
  | _ => Unit

/-- What the outside world decides: whether the database answers, and what a library answers. -/
@[reducible] def Outcome : Op → Type
  | .now => Unit
  | .findUserByEmail _ => Delivery
  | .findUserByUsername _ => Delivery
  | .findUserById _ => Delivery
  | .updateUser _ _ => Delivery
  | .createSession _ => Delivery
  | .findSession _ _ _ => Delivery
  | .findRecentlyRevoked _ _ _ => Delivery
  | .revokeSessions _ _ => Delivery
  | .rememberRefreshGrace _ _ _ => Unit
  | .consumeRefreshGrace _ => Unit
  | .verifyRefreshJwt _ => Option ℕ
  | .signRefresh _ _ => String
  | .generateOtpCode => String
  | op => Except String (Result op)

/-- An outcome and the time until it is there. -/
structure Fate (op : Op) where
  elapsed : ℕ
  outcome : Outcome op

/-- The first user that matches, with its id. -/
def Store.findUser (store : Store) (matching : User → Bool) : Option (Stored User) :=
  (store.users.findIdx? matching).bind fun id => store.users[id]?.map fun user => ⟨id, user⟩

theorem findUser_row {store : Store} {matching : User → Bool} {user : Stored User}
    (found : store.findUser matching = some user) : store.users[user.id]? = some user.row := by
  obtain ⟨id, -, isUser⟩ := Option.bind_eq_some_iff.mp found
  obtain ⟨row, isRow, rfl⟩ := Option.map_eq_some_iff.mp isUser
  exact isRow

def Store.updateUser (store : Store) (id : ℕ) (update : UserUpdate) : Store :=
  { store with users := store.users.modify id update.apply }

/-- The unique constraint of the hash. -/
def Store.createSession (store : Store) (delivery : Delivery) (session : AuthSession) :
    Store × Except String Unit :=
  if store.sessions.any fun other => other.refreshTokenHash = session.refreshTokenHash then
    (store, .error "Unique constraint failed on the fields: (refreshTokenHash)")
  else delivery.write store { store with sessions := store.sessions ++ [session] } ()

/-- What an operation does, once its answer is there. -/
def performNow : (op : Op) → Outcome op → Store → Store × Except String (Result op)
  | .now, _, store => (store, .ok store.now)
  | .findUserByEmail email, delivery, store =>
    delivery.read store (store.findUser fun user => user.email = email)
  | .findUserByUsername username, delivery, store =>
    delivery.read store (store.findUser fun user => user.username = some username)
  | .findUserById id, delivery, store =>
    delivery.read store (store.users[id]?.map fun user => ⟨id, user⟩)
  | .updateUser id update, delivery, store => delivery.write store (store.updateUser id update) ()
  | .comparePassword _ _ _, answer, store => (store, answer)
  | .compareCode _ _ _, answer, store => (store, answer)
  | .generateOtpCode, code, store => (store, .ok code)
  | .hashOtpCode _, answer, store => (store, answer)
  | .sendVerificationEmail _ _, answer, store => (store, answer)
  | .verifyRefreshJwt _, payload, store => (store, .ok payload)
  | .signRefresh _ _, token, store => (store, .ok token)
  | .createSession session, delivery, store => store.createSession delivery session
  | .findSession userId hash date, delivery, store =>
    delivery.read store (store.sessions.find? fun session => session.Valid userId hash date)
  | .findRecentlyRevoked userId hash since, delivery, store =>
    delivery.read store (store.sessions.find? fun session =>
      session.RevokedSince userId hash since)
  | .revokeSessions hash date, delivery, store => delivery.write store (store.revoke hash date) ()
  | .rememberRefreshGrace hash userId email, _, store =>
    (rememberRefreshGrace hash userId email store, .ok ())
  | .consumeRefreshGrace hash, _, store =>
    ((consumeRefreshGrace hash store).1, .ok (consumeRefreshGrace hash store).2)

/-! ### What an operation changes -/

section Changes

variable {store : Store}

theorem write_of {kept : Store → Prop} (delivery : Delivery) {before after : Store}
    (was : kept before) (becomes : kept after) :
    kept (if delivery.Applies then after else before) := by
  split
  · exact becomes
  · exact was

theorem createSession_cases (delivery : Delivery) (session : AuthSession) :
    (store.createSession delivery session).1 = store ∨
      (∀ other ∈ store.sessions, other.refreshTokenHash ≠ session.refreshTokenHash) ∧
        (store.createSession delivery session).1 =
          { store with sessions := store.sessions ++ [session] } := by
  unfold Store.createSession
  split
  · exact Or.inl rfl
  · rename_i fresh
    unfold Delivery.write
    split
    · refine Or.inr ⟨fun other member same => fresh ?_, rfl⟩
      exact List.any_eq_true.mpr ⟨other, member, decide_eq_true same⟩
    · exact Or.inl rfl

theorem now_performNow (op : Op) (outcome : Outcome op) :
    (performNow op outcome store).1.now = store.now := by
  cases op with
  | updateUser id update =>
    exact @write_of (fun after => after.now = store.now) outcome store _ rfl rfl
  | createSession session =>
    rcases @createSession_cases store outcome session with same | ⟨-, created⟩
    · exact (congrArg Store.now same :)
    · exact (congrArg Store.now created :)
  | revokeSessions hash date =>
    exact @write_of (fun after => after.now = store.now) outcome store _ rfl rfl
  | consumeRefreshGrace hash =>
    obtain ⟨entries, isStore, -⟩ := consumeRefreshGrace_store hash store
    exact (congrArg Store.now isStore :)
  | _ => rfl

/-- Sessions are opened under a new hash, or revoked; nothing else happens to them. -/
theorem sessions_performNow (op : Op) (outcome : Outcome op) :
    (performNow op outcome store).1.sessions = store.sessions ∨
      (∃ session, op = .createSession session ∧
        (∀ other ∈ store.sessions, other.refreshTokenHash ≠ session.refreshTokenHash) ∧
        (performNow op outcome store).1.sessions = store.sessions ++ [session]) ∨
      ∃ hash date, op = .revokeSessions hash date ∧
        (performNow op outcome store).1.sessions = (store.revoke hash date).sessions := by
  cases op with
  | updateUser id update =>
    exact Or.inl (@write_of (fun after => after.sessions = store.sessions) outcome store _ rfl rfl)
  | createSession session =>
    rcases @createSession_cases store outcome session with same | ⟨fresh, created⟩
    · exact Or.inl (congrArg Store.sessions same :)
    · exact Or.inr (Or.inl ⟨session, rfl, fresh, (congrArg Store.sessions created :)⟩)
  | revokeSessions hash date =>
    by_cases applies : Delivery.Applies outcome
    · exact Or.inr (Or.inr ⟨hash, date, rfl, (congrArg Store.sessions (if_pos applies) :)⟩)
    · exact Or.inl (congrArg Store.sessions (if_neg applies) :)
  | consumeRefreshGrace hash =>
    obtain ⟨entries, isStore, -⟩ := consumeRefreshGrace_store hash store
    exact Or.inl (congrArg Store.sessions isStore :)
  | _ => exact Or.inl rfl

theorem grace_performNow (op : Op) (outcome : Outcome op) {entry : String × RefreshGrace}
    (member : entry ∈ (performNow op outcome store).1.refreshGraceByHash) :
    entry ∈ store.refreshGraceByHash ∨ ∃ hash userId email,
      op = .rememberRefreshGrace hash userId email ∧
        entry = (hash, ⟨userId, email, store.now + refreshGraceMs⟩) := by
  cases op with
  | updateUser id update =>
    have same := @write_of (fun after => after.refreshGraceByHash = store.refreshGraceByHash)
      outcome store (store.updateUser id update) rfl rfl
    exact Or.inl ((congrArg (entry ∈ ·) same).mp member)
  | createSession session =>
    rcases @createSession_cases store outcome session with same | ⟨-, created⟩
    · exact Or.inl ((congrArg (entry ∈ Store.refreshGraceByHash ·) same).mp member)
    · exact Or.inl ((congrArg (entry ∈ Store.refreshGraceByHash ·) created).mp member)
  | revokeSessions hash date =>
    have same := @write_of (fun after => after.refreshGraceByHash = store.refreshGraceByHash)
      outcome store (store.revoke hash date) rfl rfl
    exact Or.inl ((congrArg (entry ∈ ·) same).mp member)
  | rememberRefreshGrace hash userId email =>
    rcases mem_rememberRefreshGrace member with old | isNew
    · exact Or.inl old
    · exact Or.inr ⟨hash, userId, email, rfl, isNew⟩
  | consumeRefreshGrace hash =>
    obtain ⟨entries, isStore, sub⟩ := consumeRefreshGrace_store hash store
    exact Or.inl (sub entry ((congrArg (entry ∈ Store.refreshGraceByHash ·) isStore).mp member))
  | _ => exact Or.inl member

end Changes

/-! ### The service -/

def Store.tick (store : Store) (elapsed : ℕ) : Store := { store with now := store.now + elapsed }

def perform (op : Op) (fate : Fate op) (store : Store) : Store × Except String (Result op) :=
  performNow op fate.outcome (store.tick fate.elapsed)

/-- The outside world of the routes. -/
abbrev accounts : Async.Service where
  State := Store
  Op := Op
  Result := Result
  Failure := String
  Fate := Fate
  perform := perform

abbrev Call (Value : Type) := Async.Program accounts Value

def await (op : Op) : Call (Result op) := @Async.Program.perform accounts op

end GdslExchange.Auth
