/-
This file says when a refresh token is dead: after its logout, and a while after
its rotation.

The row of a session that is revoked stays revoked, and its date lies in the
past. But a token can also be redeemed by an entry of the grace map, which every
redemption renews, and by a row that was revoked a moment ago, even by a logout.
So a token is dead for a request that comes late enough if no one has redeemed
it in the meantime.
-/

import GdslExchange.Async.Contract
import GdslExchange.Async.Recency
import GdslExchange.Auth.Routes
import Mathlib.Tactic.Linarith

namespace GdslExchange.Auth

open Async
open Async.Program
open Async.Contract

/-! ### What a run does to sessions -/

/-- A session with this hash is on record. -/
def Held (hash : String) (store : Store) : Prop :=
  ∃ session ∈ store.sessions, session.refreshTokenHash = hash

/-- The session with this hash was revoked, no later than at a bound. -/
def RevokedBy (hash : String) (bound : Time) (store : Store) : Prop :=
  Held hash store ∧ ∀ session ∈ store.sessions, session.refreshTokenHash = hash →
    ∃ revoked ∈ session.revokedAt, revoked ≤ bound

/-- Revocations lie in the past. -/
def Past (store : Store) : Prop :=
  ∀ session ∈ store.sessions, ∀ revoked ∈ session.revokedAt, revoked ≤ store.now

/-- What only time and other requests do to a store. -/
structure Ages (before after : Store) : Prop where
  now : before.now ≤ after.now
  held : ∀ hash, Held hash before → Held hash after
  revoked : ∀ hash bound, RevokedBy hash bound before → RevokedBy hash bound after

namespace Ages

theorem refl (store : Store) : Ages store store := ⟨le_rfl, fun _ => id, fun _ _ => id⟩

theorem trans {first second third : Store} (head : Ages first second)
    (tail : Ages second third) : Ages first third where
  now := head.now.trans tail.now
  held hash held := tail.held hash (head.held hash held)
  revoked hash bound revoked := tail.revoked hash bound (head.revoked hash bound revoked)

theorem of_sessions {before after : Store} (now : before.now ≤ after.now)
    (sessions : after.sessions = before.sessions) : Ages before after where
  now := now
  held hash held := by
    unfold Held
    rwa [sessions]
  revoked hash bound revoked := by
    unfold RevokedBy Held
    rwa [sessions]

end Ages

section Store

variable {store : Store}

theorem revoke_refreshTokenHash (session : AuthSession) (hash : String) (date : Time) :
    (session.revoke hash date).refreshTokenHash = session.refreshTokenHash := by
  unfold AuthSession.revoke
  split <;> rfl

variable {session : AuthSession}

theorem revoke_of_revoked {revoked : Time} (isRevoked : session.revokedAt = some revoked)
    (hash : String) (date : Time) :
    session.revoke hash date = session := by
  unfold AuthSession.revoke
  rw [if_neg fun both => by rw [isRevoked] at both; cases both.2]

theorem revokedAt_revoke {hash : String} (matching : session.refreshTokenHash = hash) (date : Time) :
    (session.revoke hash date).revokedAt = some (session.revokedAt.getD date) := by
  unfold AuthSession.revoke
  cases isRevoked : session.revokedAt with
  | none => rw [if_pos ⟨matching, rfl⟩, Option.getD_none]
  | some revoked => rw [if_neg (fun both => by cases both.2), isRevoked, Option.getD_some]

theorem ages_revoke (hash : String) (date : Time) : Ages store (store.revoke hash date) where
  now := le_rfl
  held other := by
    rintro ⟨session, member, isOther⟩
    exact ⟨_, List.mem_map_of_mem member, (revoke_refreshTokenHash ..).trans isOther⟩
  revoked other bound := by
    rintro ⟨⟨session, member, isOther⟩, revoked⟩
    refine ⟨⟨_, List.mem_map_of_mem member, (revoke_refreshTokenHash ..).trans isOther⟩, ?_⟩
    intro changed memberChanged matching
    obtain ⟨row, memberRow, rfl⟩ := List.mem_map.mp memberChanged
    rw [revoke_refreshTokenHash] at matching
    obtain ⟨at', isRevoked, le⟩ := revoked row memberRow matching
    rw [revoke_of_revoked isRevoked]
    exact ⟨at', isRevoked, le⟩

theorem ages_create {after : Store} (now : store.now ≤ after.now)
    (fresh : ∀ other ∈ store.sessions, other.refreshTokenHash ≠ session.refreshTokenHash)
    (created : after.sessions = store.sessions ++ [session]) : Ages store after where
  now := now
  held hash := by
    rintro ⟨row, member, isHash⟩
    refine ⟨row, ?_, isHash⟩
    rw [created]
    exact List.mem_append_left _ member
  revoked hash bound := by
    rintro ⟨⟨row, member, isHash⟩, revoked⟩
    unfold RevokedBy Held
    rw [created]
    refine ⟨⟨row, List.mem_append_left _ member, isHash⟩, fun other memberOther matching => ?_⟩
    rcases List.mem_append.mp memberOther with old | isNew
    · exact revoked other old matching
    · rw [List.mem_singleton.mp isNew] at matching
      exact absurd (isHash.trans matching.symm) (fresh row member)

theorem ages_performNow (op : Op) (outcome : Outcome op) :
    Ages store (performNow op outcome store).1 := by
  have now := (@now_performNow store op outcome).ge
  rcases @sessions_performNow store op outcome with
    same | ⟨session, -, fresh, created⟩ | ⟨hash, date, -, revoked⟩
  · exact Ages.of_sessions now same
  · exact ages_create now fresh created
  · exact (ages_revoke hash date).trans (Ages.of_sessions now revoked)

theorem now_tick {elapsed : ℕ} : store.now ≤ (store.tick elapsed).now :=
  Int.le_add_of_nonneg_right (Int.natCast_nonneg _)

theorem ages_perform (op : Op) (fate : Fate op) : Ages store (perform op fate store).1 := by
  have ticked : Ages store (store.tick fate.elapsed) := Ages.of_sessions now_tick rfl
  exact ticked.trans (ages_performNow op fate.outcome)

/-- A write to the sessions that fits the time. -/
def Timely (now : Time) : Op → Prop
  | .createSession session => session.revokedAt = none
  | .revokeSessions _ date => date ≤ now
  | _ => True

theorem past_performNow {op : Op} (outcome : Outcome op) (past : Past store)
    (timely : Timely store.now op) : Past (performNow op outcome store).1 := by
  unfold Past
  rw [now_performNow]
  rcases @sessions_performNow store op outcome with
    same | ⟨session, rfl, -, created⟩ | ⟨hash, date, rfl, revoked⟩
  · rw [same]
    exact past
  · rw [created]
    intro row member revoked isRevoked
    rcases List.mem_append.mp member with old | isNew
    · exact past row old revoked isRevoked
    · have isOpen : session.revokedAt = none := timely
      rw [List.mem_singleton.mp isNew, isOpen] at isRevoked
      cases isRevoked
  · rw [revoked]
    intro changed member at' isRevoked
    obtain ⟨row, memberRow, rfl⟩ := List.mem_map.mp member
    unfold AuthSession.revoke at isRevoked
    split at isRevoked
    · cases isRevoked
      exact timely
    · exact past row memberRow at' isRevoked

theorem past_perform {op : Op} (fate : Fate op) (past : Past store)
    (timely : Timely store.now op) : Past (perform op fate store).1 := by
  have later := @now_tick store fate.elapsed
  refine past_performNow fate.outcome ?_ ?_
  · exact fun session member revoked isRevoked =>
      (past session member revoked isRevoked).trans later
  · cases op with
    | revokeSessions hash date => exact le_trans timely later
    | _ => exact timely

/-- After a write that revokes a session on record, the session is revoked. -/
theorem revokedBy_revoke {hash : String} {date bound : Time} (past : Past store)
    (isPast : store.now ≤ bound) (dated : date ≤ bound)
    (held : Held hash (store.revoke hash date)) :
    RevokedBy hash bound (store.revoke hash date) := by
  refine ⟨held, fun changed member matching => ?_⟩
  obtain ⟨row, memberRow, rfl⟩ := List.mem_map.mp member
  rw [revoke_refreshTokenHash] at matching
  refine ⟨_, revokedAt_revoke matching date, ?_⟩
  cases isRevoked : row.revokedAt with
  | none => exact dated
  | some revoked => exact (past row memberRow revoked isRevoked).trans isPast

end Store

/-! ### What a run remembers -/

def elapsed (event : Event accounts) : ℕ := event.fate.elapsed

/-- A token is put into the grace map. -/
def Remembers (hash : String) (event : Event accounts) : Prop :=
  match event.op with
  | .rememberRefreshGrace remembered _ _ => remembered = hash
  | _ => False

instance (hash : String) : DecidablePred (Remembers hash) := fun event => by
  unfold Remembers
  split <;> infer_instance

/-- An entry of the map that is still good was put there within the grace. -/
def Graced (moment : Moment accounts) : Prop :=
  ∀ entry ∈ moment.state.refreshGraceByHash,
    Within elapsed (moment.state.now - entry.2.untilTime + refreshGraceMs) (Remembers entry.1)
      moment.log

theorem now_after (before : Moment accounts) (caller : ℕ) (op : Op) (fate : Fate op) :
    (Step.mk before caller op fate : Step accounts).after.state.now =
      before.state.now + fate.elapsed := now_performNow op fate.outcome

theorem graced_after {step : Step accounts} (graced : Graced step.before) :
    Graced step.after := by
  obtain ⟨before, caller, op, fate⟩ := step
  intro entry member
  rw [now_after]
  rcases grace_performNow op fate.outcome member with old | ⟨hash, userId, email, rfl, isNew⟩
  · refine Or.inr ((graced entry old).mono ?_)
    show before.state.now - _ + _ ≤ before.state.now + fate.elapsed - _ + _ - (fate.elapsed : ℤ)
    linarith
  · refine Or.inl ⟨congrArg Prod.fst isNew.symm, ?_⟩
    rw [isNew]
    show 0 ≤ before.state.now + fate.elapsed -
      (before.state.now + fate.elapsed + refreshGraceMs) + refreshGraceMs
    linarith

/-! ### The contract of a request -/

/-- Revocations lie in the past and the map is up to date; time passes and revocations stay. -/
def aging (allowed : Step accounts → Prop) : Contract accounts where
  allowed := allowed
  promised _ := True
  invariant moment := Past moment.state ∧ Graced moment
  rely _ before after := Ages before.state after.state
  rely_refl _ moment := Ages.refl moment.state
  rely_trans _ _ _ _ head tail := head.trans tail

section Requests

variable (allowed : Step accounts → Prop) (caller : ℕ)

/-- From a store in `pre` on the program respects the contract, and it returns to one in `post`. -/
abbrev Serves {Value : Type} (pre : Store → Prop) (program : Call Value)
    (post : Value → Store → Prop) : Prop :=
  (aging allowed).Yields caller (fun moment => pre moment.state) program
    fun value moment => post value moment.state

variable {allowed caller}

theorem respects_timely {step : Step accounts}
    (timely : Timely step.before.state.now step.op)
    (invariant : (aging allowed).invariant step.before) : (aging allowed).Respects step where
  promised := trivial
  invariant := ⟨past_perform step.fate invariant.1 timely, graced_after invariant.2⟩
  others _ _ := ages_perform step.op step.fate

/-- An assertion that time and other requests keep. -/
def Lasting (assertion : Store → Prop) : Prop :=
  ∀ before after, Ages before after → assertion before → assertion after

variable {assertion : Store → Prop}

theorem Lasting.stable (lasting : Lasting assertion) :
    (aging allowed).Stable caller fun moment => assertion moment.state :=
  fun _ _ holds ages _ => lasting _ _ ages holds

theorem lasting_held (hash : String) : Lasting (Held hash) := fun _ _ ages => ages.held hash

theorem lasting_revokedBy (hash : String) (bound : Time) : Lasting (RevokedBy hash bound) :=
  fun _ _ ages => ages.revoked hash bound

theorem lasting_reached (date : Time) : Lasting fun store => date ≤ store.now :=
  fun _ _ ages reached => reached.trans ages.now

def Revoked (hash : String) (store : Store) : Prop := RevokedBy hash store.now store

theorem RevokedBy.mono {hash : String} {bound later : Time} {store : Store}
    (revoked : RevokedBy hash bound store) (le : bound ≤ later) : RevokedBy hash later store := by
  refine ⟨revoked.1, fun session member matching => ?_⟩
  obtain ⟨date, isRevoked, early⟩ := revoked.2 session member matching
  exact ⟨date, isRevoked, early.trans le⟩

theorem lasting_revoked (hash : String) : Lasting (Revoked hash) :=
  fun _ _ ages revoked => (ages.revoked hash _ revoked).mono ages.now

theorem serves_perform (lasting : Lasting assertion) {op : Op}
    (timely : ∀ store : Store, assertion store → Timely store.now op)
    {post : Result op → Store → Prop}
    (answered : ∀ before fate, assertion before.state →
      (aging allowed).invariant before → allowed ⟨before, caller, op, fate⟩ →
      ∀ result, (Step.mk before caller op fate : Step accounts).reply = .ok result →
        post result (Step.mk before caller op fate : Step accounts).after.state) :
    Serves allowed caller assertion (await op) post := by
  refine Triple.perform lasting.stable fun before fate holds invariant isAllowed => ?_
  exact ⟨respects_timely (timely _ holds) invariant,
    outcome_intro (answered before fate holds invariant isAllowed) fun _ _ => trivial⟩

variable {Value : Type} {pre : Store → Prop} {program : Call Value}

theorem serves_lasting {post : Value → Store → Prop} (lasting : Lasting assertion)
    (serves : Serves allowed caller pre program post) :
    Serves allowed caller (fun store => assertion store ∧ pre store) program
      fun value store => assertion store ∧ post value store := by
  have keeps : ∀ {program : Call Value} {moment : Moment accounts}, assertion moment.state →
      (aging allowed).Meets caller program
        (outcome (fun value moment => post value moment.state) fun _ _ => True) moment →
      (aging allowed).Meets caller program (outcome (fun value moment =>
        assertion moment.state ∧ post value moment.state) fun _ _ => True) moment := by
    intro program moment holds meets
    induction program generalizing moment with
    | done value => exact ⟨holds, meets⟩
    | failed failure => exact meets
    | await op resume inductionHypothesis =>
      intro before ages invariant fate isAllowed
      obtain ⟨respects, later⟩ := meets before ages invariant fate isAllowed
      refine ⟨respects, inductionHypothesis _ ?_ later⟩
      exact lasting _ _ (ages_perform op fate) (lasting _ _ ages holds)
  exact fun moment holds => keeps holds.1 (serves moment holds.2)

/-- An operation that every request may await at any time. -/
def Harmless : Op → Prop
  | .createSession session => session.revokedAt = none
  | .revokeSessions _ _ => False
  | _ => True

theorem harmless_of_routine {op : Op} (routine : Routine op) : Harmless op := by
  cases op with
  | createSession session => exact routine
  | revokeSessions hash date => exact routine
  | _ => trivial

theorem serves_still (lasting : Lasting assertion) (only : program.Only Harmless) :
    Serves allowed caller assertion program fun _ => assertion := by
  refine Triple.throwing (Triple.only (fun op harmless => ?_) only) fun _ _ _ => trivial
  refine Triple.perform lasting.stable fun before fate holds invariant _ => ?_
  have after := lasting _ _ (ages_perform op fate) holds
  refine ⟨respects_timely ?_ invariant, outcome_intro (fun _ _ => after) fun _ _ => after⟩
  cases op with
  | revokeSessions hash date => exact harmless.elim
  | _ => exact harmless

theorem serves_harmless (only : program.Only Harmless) :
    Serves allowed caller (fun _ => True) program fun _ _ => True :=
  serves_still (fun _ _ _ => id) only

/-- The clock tells a time that has come, and no earlier one than has come before. -/
theorem serves_now (lasting : Lasting assertion) (reached : Time) :
    Serves allowed caller (fun store => reached ≤ store.now ∧ assertion store) (await .now)
      fun date store => (reached ≤ date ∧ date ≤ store.now) ∧ assertion store := by
  have both : Lasting fun store => reached ≤ store.now ∧ assertion store := fun _ _ ages holds =>
    ⟨lasting_reached reached _ _ ages holds.1, lasting _ _ ages holds.2⟩
  refine serves_perform both (fun _ _ => by exact trivial)
    fun before fate holds invariant _ date isDate => ?_
  cases isDate
  exact ⟨⟨holds.1.trans now_tick, le_rfl⟩, lasting _ _ (ages_perform .now fate) holds.2⟩

variable {tokenHash : String → String}

theorem serves_revokeRefreshSessionByToken (refreshToken : String) :
    Serves allowed caller (fun _ => True) (revokeRefreshSessionByToken tokenHash refreshToken)
      fun _ store => Held (tokenHash refreshToken) store →
        Revoked (tokenHash refreshToken) store := by
  have began : Serves allowed caller (fun _ => True) (await .now)
      fun (date : Time) store => date ≤ store.now := by
    refine serves_perform (fun _ _ _ => id) (fun _ _ => by exact trivial)
      fun before fate _ _ _ date isDate => ?_
    cases isDate
    exact le_rfl
  refine Triple.bind began fun date => ?_
  refine Triple.perform (lasting_reached date).stable fun before fate reached invariant _ => ?_
  refine ⟨respects_timely reached invariant, outcome_intro (fun _ answered held => ?_)
    fun _ _ => trivial⟩
  obtain ⟨elapsed, delivery⟩ := fate
  cases delivery with
  | answered =>
    have later := @now_tick before.state elapsed
    refine revokedBy_revoke ?_ le_rfl (reached.trans later) held
    exact fun session member revoked isRevoked =>
      (invariant.1 session member revoked isRevoked).trans later
  | refused message => cases answered
  | lost message => cases answered

theorem serves_forEachRevoke (refreshTokens : List String) :
    Serves allowed caller (fun _ => True)
      (forEach (revokeRefreshSessionByToken tokenHash) refreshTokens) fun _ _ => True := by
  refine Triple.forEach fun refreshToken _ => ?_
  exact Yields.weaken (serves_revokeRefreshSessionByToken refreshToken) (fun _ => id)
    fun _ _ _ => trivial

theorem serves_revokeAll (refreshToken : String) (refreshTokens : List String) :
    Serves allowed caller (Held (tokenHash refreshToken))
      (forEach (revokeRefreshSessionByToken tokenHash) refreshTokens)
      fun _ store => refreshToken ∈ refreshTokens → Revoked (tokenHash refreshToken) store := by
  induction refreshTokens with
  | nil => exact Triple.done fun _ _ member => absurd member List.not_mem_nil
  | cons first rest inductionHypothesis =>
    refine Triple.bind (Yields.weaken (serves_lasting (lasting_held (tokenHash refreshToken))
      (serves_revokeRefreshSessionByToken first)) (fun _ held => ⟨held, trivial⟩)
        fun _ _ => id) fun _ => ?_
    by_cases isFirst : refreshToken = first
    · rw [← isFirst]
      exact Yields.weaken (serves_lasting (lasting_revoked (tokenHash refreshToken))
        (serves_forEachRevoke rest)) (fun _ known => ⟨known.2 known.1, trivial⟩)
          fun _ _ known _ => known.1
    · exact Yields.weaken inductionHypothesis (fun _ known => known.1) fun _ _ known member =>
        known ((List.mem_cons.mp member).resolve_left isFirst)

theorem serves_logout {refreshToken : String} {refreshTokens : List String}
    (member : refreshToken ∈ refreshTokens) :
    Serves allowed caller (Held (tokenHash refreshToken)) (logout tokenHash refreshTokens)
      fun _ => Revoked (tokenHash refreshToken) :=
  Triple.bind (serves_revokeAll refreshToken refreshTokens) fun _ =>
    Triple.done fun _ known => known member

theorem serves_findSession (userId : ℕ) (hash : String) (date : Time) :
    Serves allowed caller (fun _ => True) (await (.findSession userId hash date))
      fun session store => session ≠ none → Held hash store := by
  refine serves_perform (fun _ _ _ => id) (fun _ _ => by exact trivial)
    fun before fate _ _ _ session answered isSome => ?_
  obtain ⟨elapsed, delivery⟩ := fate
  cases delivery with
  | answered =>
    cases answered
    obtain ⟨row, isRow⟩ := Option.ne_none_iff_exists'.mp isSome
    have valid := List.find?_some isRow
    rw [decide_eq_true_eq] at valid
    exact ⟨row, List.mem_of_find?_eq_some isRow, valid.2.1⟩
  | refused message => cases answered
  | lost message => cases answered

theorem returns_matchGrace (refreshToken : String) (user : Stored User) :
    (matchGrace tokenHash refreshToken user).Returns fun found => ∀ matched,
      found = some matched → matched.refreshToken = refreshToken ∧ matched.fromGrace = true := by
  refine returns_bind fun grace => ?_
  split
  · rintro matched isMatched
    cases isMatched
    exact ⟨rfl, rfl⟩
  · refine returns_bind fun date => returns_bind fun recentlyRevoked => ?_
    rintro matched isMatched
    obtain ⟨-, -, rfl⟩ := Option.map_eq_some_iff.mp isMatched
    exact ⟨rfl, rfl⟩

/-- A token that is redeemed for the first time has its session on record. -/
theorem serves_matchToken (refreshToken : String) :
    Serves allowed caller (fun _ => True) (matchToken tokenHash refreshToken)
      fun found store => ∀ matched, found = some matched →
        matched.fromGrace = false → Held (tokenHash matched.refreshToken) store := by
  refine Triple.bind (serves_harmless (@only_perform accounts Harmless (.verifyRefreshJwt _)
    trivial)) fun payload => ?_
  cases payload with
  | none => exact Triple.done nofun
  | some userId =>
    refine Triple.bind (serves_harmless (@only_perform accounts Harmless (.findUserById _)
      trivial)) fun user => ?_
    cases user with
    | none => exact Triple.done nofun
    | some user =>
      refine Triple.bind (serves_harmless (@only_perform accounts Harmless .now trivial))
        fun date => ?_
      refine Triple.bind (serves_findSession user.id (tokenHash refreshToken) date)
        fun session => ?_
      split
      · rename_i isSession
        refine Triple.done fun moment held matched isMatched _ => ?_
        cases isMatched
        refine held fun isNone => ?_
        rw [isNone] at isSession
        cases isSession
      · refine Yields.weaken (Triple.returning (serves_harmless
          ((routine_matchGrace refreshToken user).mono fun _ => harmless_of_routine))
          (returns_matchGrace refreshToken user)) (fun _ _ => trivial)
            fun found _ known matched isMatched notGrace => ?_
        rw [(known.1 matched isMatched).2] at notGrace
        cases notGrace

theorem serves_retire (candidates : List String) (found : Matched) :
    Serves allowed caller (fun store => found.fromGrace = false →
        Held (tokenHash found.refreshToken) store) (retire tokenHash candidates found)
      fun _ store => found.fromGrace = false → Revoked (tokenHash found.refreshToken) store := by
  unfold retire
  split
  · rename_i isGrace
    refine Triple.done fun _ _ notGrace => ?_
    rw [notGrace] at isGrace
    cases isGrace
  · rename_i notGrace
    refine Triple.bind (Yields.weaken (serves_still (lasting_held (tokenHash found.refreshToken))
      (only_perform (by exact trivial))) (fun _ known => known (Bool.eq_false_iff.mpr notGrace))
      fun _ _ => id) fun _ => ?_
    refine Triple.bind (Yields.weaken (serves_lasting (lasting_held (tokenHash found.refreshToken))
      (serves_revokeRefreshSessionByToken found.refreshToken)) (fun _ held => ⟨held, trivial⟩)
      fun _ _ => id) fun _ => ?_
    exact Yields.weaken (serves_lasting (lasting_revoked (tokenHash found.refreshToken))
      (serves_forEachRevoke _)) (fun _ known => ⟨known.2 known.1, trivial⟩) fun _ _ known _ => known.1

theorem serves_redeem (candidates : List String) (found : Matched) :
    Serves allowed caller (fun store => found.fromGrace = false →
        Held (tokenHash found.refreshToken) store) (redeem tokenHash candidates found)
      fun _ store => found.fromGrace = false → Revoked (tokenHash found.refreshToken) store := by
  have lasting : Lasting fun store => found.fromGrace = false →
      Revoked (tokenHash found.refreshToken) store :=
    fun _ _ ages known notGrace => lasting_revoked _ _ _ ages (known notGrace)
  refine Triple.bind (serves_retire candidates found) fun _ => ?_
  refine Triple.bind (serves_still lasting (@only_perform accounts Harmless (.signRefresh _ _)
    trivial)) fun nextRefreshToken => ?_
  refine Triple.bind (serves_still lasting ((routine_createRefreshSession found.userId
    nextRefreshToken).mono fun _ => harmless_of_routine)) fun _ => ?_
  exact Triple.bind (serves_still lasting (@only_perform accounts Harmless
    (.rememberRefreshGrace _ _ _) trivial)) fun _ => Triple.done fun _ => id

theorem returns_redeem (candidates : List String) (found : Matched) :
    (redeem tokenHash candidates found).Returns fun response => response.matched = some found :=
  returns_bind fun _ => returns_bind fun _ => returns_bind fun _ => returns_bind fun _ => rfl

theorem serves_refresh_of {candidates : List String} {known : Matched → Store → Prop}
    {post : Matched → Store → Prop}
    (matches_ : Serves allowed caller pre (firstMatch tokenHash candidates)
      fun found store => ∀ matched, found = some matched → known matched store)
    (redeems : ∀ found, Serves allowed caller (known found) (redeem tokenHash candidates found)
      fun _ => post found) :
    Serves allowed caller pre (refresh tokenHash candidates)
      fun response store => ∀ matched, response.matched = some matched → post matched store := by
  unfold refresh
  split
  · exact Triple.done nofun
  · refine Triple.bind matches_ fun found => ?_
    cases found with
    | none => exact Triple.done nofun
    | some found =>
      refine Yields.weaken (Triple.returning (redeems found) (returns_redeem candidates found))
        (fun _ holds => holds found rfl) fun response _ holds matched isMatched => ?_
      rw [holds.1] at isMatched
      cases isMatched
      exact holds.2

theorem serves_firstMatch {known : Matched → Store → Prop}
    (each : ∀ candidate, Serves allowed caller pre (matchToken tokenHash candidate)
      fun found store => pre store ∧ ∀ matched, found = some matched → known matched store)
    (candidates : List String) :
    Serves allowed caller pre (firstMatch tokenHash candidates)
      fun found store => ∀ matched, found = some matched → known matched store := by
  induction candidates with
  | nil => exact Triple.done nofun
  | cons refreshToken rest inductionHypothesis =>
    refine Triple.bind (each refreshToken) fun found => ?_
    cases found with
    | none => exact Yields.weaken inductionHypothesis (fun _ holds => holds.1) fun _ _ => id
    | some found => exact Triple.done fun _ holds => holds.2

theorem serves_refresh (candidates : List String) :
    Serves allowed caller (fun _ => True) (refresh tokenHash candidates)
      fun response store => ∀ matched, response.matched = some matched →
        matched.fromGrace = false → Revoked (tokenHash matched.refreshToken) store := by
  refine serves_refresh_of (serves_firstMatch (fun candidate => ?_) candidates)
    (serves_redeem candidates)
  exact Yields.weaken (serves_matchToken candidate) (fun _ => id) fun _ _ known => ⟨trivial, known⟩

end Requests

/-! ### The other requests -/

section Others

variable {tokenHash : String → String}

theorem harmless_openSession (user : Stored User) (body : Body) :
    (openSession tokenHash user body).Only Harmless :=
  (routine_openSession user body).mono fun _ => harmless_of_routine

theorem harmless_verifyEmail (email code : String) :
    (verifyEmail tokenHash email code).Only Harmless := by
  refine only_then (by exact trivial) fun user => ?_
  cases user with
  | none => trivial
  | some user =>
    refine only_then (by exact trivial) fun date => ?_
    split
    · trivial
    · refine only_bind ?_ fun isMatch => ?_
      · unfold verifyOtpCode
        split
        · trivial
        · exact only_perform (by exact trivial)
      · split
        · exact only_then (by exact trivial) fun _ => trivial
        · exact only_then (by exact trivial) fun _ => harmless_openSession user _

theorem harmless_tryPassword (user : Stored User) (password : String) :
    (tryPassword tokenHash user password).Only Harmless := by
  refine only_then (by exact trivial) fun valid => ?_
  split
  · refine only_bind (only_then (by exact trivial) fun date => ?_) fun _ => trivial
    split <;> exact only_perform (by exact trivial)
  · split
    · exact (routine_askForVerification user).mono fun _ => harmless_of_routine
    · exact only_then (by exact trivial) fun _ => harmless_openSession user _

theorem harmless_login (identifier password : String) :
    (login tokenHash identifier password).Only Harmless := by
  unfold login
  split
  · trivial
  · refine only_bind ?_ fun user => ?_
    · unfold findAccount
      split <;> exact only_perform (by exact trivial)
    · cases user with
      | none => trivial
      | some user =>
        refine only_then (by exact trivial) fun date => ?_
        split
        · trivial
        · exact harmless_tryPassword user password

theorem serves_call {allowed : Step accounts → Prop} {caller : ℕ} (request : Request) :
    Serves allowed caller (fun _ => True) (request.call tokenHash) fun _ _ => True := by
  cases request with
  | verifyEmail email code => exact serves_harmless (harmless_verifyEmail email code)
  | resendOtp email =>
    exact serves_harmless ((routine_resendOtp email).mono fun _ => harmless_of_routine)
  | login identifier password => exact serves_harmless (harmless_login identifier password)
  | refresh candidates =>
    exact Yields.weaken (serves_refresh candidates) (fun _ => id) fun _ _ _ => trivial
  | logout refreshTokens =>
    exact Triple.bind (serves_forEachRevoke refreshTokens) fun _ => Triple.done fun _ _ => trivial

end Others

/-! ### Late requests -/

/-- Nothing has put the token into the grace map within the grace before it is looked up there. -/
def Forgotten (hash : String) (step : Step accounts) : Prop :=
  step.op = .consumeRefreshGrace hash →
    ¬ Within elapsed (refreshGraceMs - step.fate.elapsed) (Remembers hash) step.before.log

/-- The look for a revocation of the token does not reach back to a bound. -/
def OutOfReach (hash : String) (bound : Time) (step : Step accounts) : Prop :=
  match step.op with
  | .findRecentlyRevoked _ looked since => looked = hash → bound < since
  | _ => True

instance (hash : String) : DecidablePred (Forgotten hash) := fun step =>
  have : Decidable (step.op = .consumeRefreshGrace hash) :=
    inferInstanceAs (Decidable (@Eq Op step.op (.consumeRefreshGrace hash)))
  inferInstanceAs (Decidable (step.op = .consumeRefreshGrace hash → ¬ _))

instance (hash : String) (bound : Time) : DecidablePred (OutOfReach hash bound) := fun step => by
  unfold OutOfReach
  split <;> infer_instance

section Late

variable {allowed : Step accounts → Prop} {caller : ℕ} {tokenHash : String → String}
  {refreshToken : String} {bound reached : Time}

/-- The session of the token was revoked no later than at the bound, and some time has come. -/
def Late (hash : String) (bound reached : Time) (store : Store) : Prop :=
  reached ≤ store.now ∧ RevokedBy hash bound store

/-- The caller finds the token neither in the map nor among the sessions revoked of late. -/
structure Unredeemed (allowed : Step accounts → Prop) (caller : ℕ) (hash : String)
    (bound reached : Time) : Prop where
  forgotten : ∀ step, allowed step → step.caller = caller → Forgotten hash step
  far : (∀ step, allowed step → step.caller = caller → OutOfReach hash bound step) ∨
    bound + refreshGraceMs < reached

theorem lasting_late (hash : String) (bound reached : Time) :
    Lasting (Late hash bound reached) := fun _ _ ages late =>
  ⟨lasting_reached reached _ _ ages late.1, lasting_revokedBy hash bound _ _ ages late.2⟩

variable {hash : String}

theorem serves_findSession_late (userId : ℕ) (date : Time) :
    Serves allowed caller (Late hash bound reached) (await (.findSession userId hash date))
      fun session store => session = none ∧ Late hash bound reached store := by
  have lasting := lasting_late hash bound reached
  refine serves_perform lasting (fun _ _ => by exact trivial)
    fun before fate late _ _ session answered =>
    ⟨?_, lasting _ _ (ages_perform _ fate) late⟩
  obtain ⟨elapsed, delivery⟩ := fate
  cases delivery with
  | answered =>
    cases answered
    refine List.find?_eq_none.mpr fun row member valid => ?_
    rw [decide_eq_true_eq] at valid
    obtain ⟨revoked, isRevoked, -⟩ := late.2.2 row member valid.2.1
    rw [valid.2.2.1] at isRevoked
    cases isRevoked
  | refused message => cases answered
  | lost message => cases answered

theorem serves_consumeRefreshGrace_late
    (forgotten : ∀ step, allowed step → step.caller = caller → Forgotten hash step) :
    Serves allowed caller (Late hash bound reached) (await (.consumeRefreshGrace hash))
      fun grace store => grace = none ∧ Late hash bound reached store := by
  have lasting := lasting_late hash bound reached
  refine serves_perform lasting (fun _ _ => by exact trivial)
    fun before fate late invariant isAllowed grace answered =>
      ⟨?_, lasting _ _ (ages_perform _ fate) late⟩
  cases answered
  refine Option.eq_none_iff_forall_not_mem.mpr fun entry found => ?_
  obtain ⟨member, good⟩ := consumeRefreshGrace_found found
  refine forgotten _ isAllowed rfl rfl ((invariant.2 _ member).mono ?_)
  have good' : before.state.now + fate.elapsed ≤ entry.untilTime := good
  show before.state.now - entry.untilTime + refreshGraceMs ≤ refreshGraceMs - fate.elapsed
  linarith

/-- A revocation that is too old is not found. -/
theorem serves_findRecentlyRevoked_late (userId : ℕ) (since : Time)
    (far : (∀ step, allowed step → step.caller = caller → OutOfReach hash bound step) ∨
      bound < since) :
    Serves allowed caller (RevokedBy hash bound) (await (.findRecentlyRevoked userId hash since))
      fun session _ => session = none := by
  refine serves_perform (lasting_revokedBy hash bound) (fun _ _ => by exact trivial)
    fun before fate late _ isAllowed session answered => ?_
  have tooOld : bound < since := by
    rcases far with unreached | old
    · exact unreached _ isAllowed rfl rfl
    · exact old
  obtain ⟨elapsed, delivery⟩ := fate
  cases delivery with
  | answered =>
    cases answered
    refine List.find?_eq_none.mpr fun row member recent => ?_
    rw [decide_eq_true_eq] at recent
    obtain ⟨-, isHash, revoked, isRevoked, notOld⟩ := recent
    obtain ⟨date, isDate, early⟩ := late.2 row member isHash
    rw [Option.mem_def.mp isRevoked] at isDate
    cases isDate
    exact absurd (notOld.trans early) (not_le.mpr tooOld)
  | refused message => cases answered
  | lost message => cases answered

variable (unredeemed : Unredeemed allowed caller (tokenHash refreshToken) bound reached)
include unredeemed

/-- A token whose session was revoked long ago stands for nothing. -/
theorem serves_matchGrace_late (user : Stored User) :
    Serves allowed caller (Late (tokenHash refreshToken) bound reached)
      (matchGrace tokenHash refreshToken user) fun found _ => found = none := by
  refine Triple.bind (serves_consumeRefreshGrace_late unredeemed.forgotten) fun grace =>
    Triple.given fun isNone => ?_
  subst isNone
  refine Triple.bind (serves_now (lasting_revokedBy _ bound) reached) fun date =>
    Triple.weaken (Triple.given fun late => ?_) (fun _ known => ⟨known.1.1, known.2⟩) fun _ _ => id
  have tooOld := unredeemed.far.imp_right fun early : bound + refreshGraceMs < reached =>
    show bound < date - refreshGraceMs by linarith
  refine Triple.bind (serves_findRecentlyRevoked_late user.id _ tooOld) fun recentlyRevoked => ?_
  refine Triple.fact fun isNone => Triple.done fun _ _ => ?_
  rw [isNone]
  rfl

theorem serves_matchToken_late :
    Serves allowed caller (Late (tokenHash refreshToken) bound reached)
      (matchToken tokenHash refreshToken) fun found _ => found = none := by
  have late := lasting_late (tokenHash refreshToken) bound reached
  refine Triple.bind (serves_still late (@only_perform accounts Harmless (.verifyRefreshJwt _)
    trivial)) fun payload => ?_
  cases payload with
  | none => exact Triple.done fun _ _ => rfl
  | some userId =>
    refine Triple.bind (serves_still late (@only_perform accounts Harmless (.findUserById _)
      trivial)) fun user => ?_
    cases user with
    | none => exact Triple.done fun _ _ => rfl
    | some user =>
      refine Triple.bind (serves_still late (@only_perform accounts Harmless .now trivial))
        fun date => ?_
      refine Triple.bind (serves_findSession_late user.id date) fun session =>
        Triple.given fun isNone => ?_
      subst isNone
      exact serves_matchGrace_late unredeemed user

omit unredeemed in
theorem returns_matchToken (other : String) :
    (matchToken tokenHash other).Returns fun found => ∀ matched, found = some matched →
      matched.refreshToken = other := by
  refine returns_bind fun payload => ?_
  cases payload with
  | none => exact nofun
  | some userId =>
    refine returns_bind fun user => ?_
    cases user with
    | none => exact nofun
    | some user =>
      refine returns_bind fun date => returns_bind fun session => ?_
      split
      · intro matched isMatched
        cases isMatched
        rfl
      · exact (returns_matchGrace other user).mono fun _ known matched isMatched =>
          (known matched isMatched).1

theorem serves_candidate_late (candidate : String) :
    Serves allowed caller (Late (tokenHash refreshToken) bound reached)
      (matchToken tokenHash candidate)
      fun found store => Late (tokenHash refreshToken) bound reached store ∧
        ∀ matched, found = some matched → matched.refreshToken ≠ refreshToken ∧
          (matched.fromGrace = false → Held (tokenHash matched.refreshToken) store) := by
  have late := lasting_late (tokenHash refreshToken) bound reached
  by_cases isToken : candidate = refreshToken
  · rw [isToken]
    refine Yields.weaken (serves_lasting late (serves_matchToken_late unredeemed))
      (fun _ holds => ⟨holds, holds⟩) fun found _ known => ⟨known.1, fun matched isMatched => ?_⟩
    rw [show found = none from known.2] at isMatched
    cases isMatched
  · refine Yields.weaken (Triple.returning (serves_lasting late (serves_matchToken candidate))
      (returns_matchToken candidate)) (fun _ holds => ⟨holds, trivial⟩) fun found _ known =>
        ⟨known.2.1, fun matched isMatched => ⟨fun same => isToken ?_, known.2.2 matched isMatched⟩⟩
    rw [← known.1 matched isMatched, same]

/-- A late request with a token whose session was revoked long ago is not answered with it. -/
theorem serves_refresh_late (candidates : List String) :
    Serves allowed caller (Late (tokenHash refreshToken) bound reached)
      (refresh tokenHash candidates) fun response _ => ∀ matched,
        response.matched = some matched → matched.refreshToken ≠ refreshToken := by
  refine serves_refresh_of (serves_firstMatch (serves_candidate_late unredeemed) candidates)
    fun found => Triple.weaken (Triple.given fun different => ?_) (fun _ => id) fun _ _ => id
  exact Yields.weaken (serves_redeem candidates found) (fun _ => id) fun _ _ _ => different

end Late

/-! ### Runs -/

def Answered (system : System accounts Response) (caller : ℕ) (response : Response) : Prop :=
  system.calls[caller]?.bind Program.result? = some (.ok response)

def Arrived (system : System accounts Response) (caller : ℕ) : Prop :=
  ∃ event ∈ system.moment.log, event.caller = caller

instance (hash : String) (store : Store) : Decidable (Held hash store) :=
  inferInstanceAs (Decidable (∃ session ∈ store.sessions, _))

instance (system : System accounts Response) (caller : ℕ) (response : Response) :
    Decidable (Answered system caller response) := inferInstanceAs (Decidable (_ = _))

instance (system : System accounts Response) (caller : ℕ) : Decidable (Arrived system caller) :=
  inferInstanceAs (Decidable (∃ event ∈ system.moment.log, _))

section Runs

variable (requests : List Request) (system : System accounts Response) (caller : ℕ)
  (refreshToken : String)

/-- `/logout` has been called with the token. -/
def LoggedOut : Prop :=
  ∃ refreshTokens response, requests[caller]? = some (.logout refreshTokens) ∧
    refreshToken ∈ refreshTokens ∧ Answered system caller response

/-- `/refresh` has succeeded with the token. -/
def RefreshedWith : Prop :=
  ∃ candidates response matched, requests[caller]? = some (.refresh candidates) ∧
    Answered system caller response ∧ response.matched = some matched ∧
    matched.refreshToken = refreshToken

/-- `/refresh` has rotated the token. -/
def Rotated : Prop :=
  ∃ candidates response matched, requests[caller]? = some (.refresh candidates) ∧
    Answered system caller response ∧ response.matched = some matched ∧
    matched.refreshToken = refreshToken ∧ matched.fromGrace = false

end Runs

section Deaths

variable (tokenHash : String → String) (requests : List Request)
  (issued loggedOut rotated waited : System accounts Response) (refreshToken : String)
  (leaver rotator comer : ℕ)

/-- A token that was issued is logged out, and a request is still to come. -/
structure AfterLogout : Prop where
  held : Held (tokenHash refreshToken) issued.moment.state
  pending : ¬ Arrived issued leaver
  leaves : LoggedOut requests loggedOut leaver refreshToken
  coming : ¬ Arrived loggedOut comer

/-- A token is rotated, and a request is still to come when its grace is over. -/
structure AfterRotation : Prop where
  rotates : Rotated requests rotated rotator refreshToken
  waits : rotated.moment.state.now + refreshGraceMs < waited.moment.state.now
  coming : ¬ Arrived waited comer

end Deaths

section Sound

variable {tokenHash : String → String} {users : List User} {now : Time} {requests : List Request}

/-- Every request may be served in any way. -/
abbrev anyStep : Contract accounts := aging fun _ => True

theorem holds_serving :
    anyStep.Holds (fun _ _ _ => True) (serving tokenHash users now requests) :=
  ⟨⟨nofun, nofun⟩, System.each_call fun _ request =>
    (serves_call request _ trivial).mono fun _ _ _ => trivial⟩

theorem holds_run {system : System accounts Response}
    (holds : anyStep.Holds (fun _ _ _ => True) system) (turns : List (Turn accounts)) :
    anyStep.Holds (fun _ _ _ => True) (system.run turns) :=
  (sound (fun _ _ _ _ _ _ _ => trivial) holds turns fun _ _ => trivial).1

/-- In every run no revocation lies in the future, and a token in the map of graces that is still
good was put there within the grace. -/
theorem graces_current (users : List User) (now : Time) (requests : List Request)
    (turns : List (Turn accounts)) :
    Past ((serving tokenHash users now requests).run turns).moment.state ∧
      Graced ((serving tokenHash users now requests).run turns).moment :=
  (holds_run holds_serving turns).1

theorem ages_run (system : System accounts Response) (turns : List (Turn accounts)) :
    Ages system.moment.state (system.run turns).moment.state := by
  induction turns generalizing system with
  | nil => exact Ages.refl _
  | cons turn rest inductionHypothesis =>
    refine Ages.trans ?_ (inductionHypothesis (system.turn turn))
    unfold System.turn
    split
    · exact ages_perform _ _
    · exact Ages.refl _

theorem call_of_coming {turns : List (Turn accounts)} {caller : ℕ} {request : Request}
    (coming : ¬ Arrived ((serving tokenHash users now requests).run turns) caller)
    (isRequest : requests[caller]? = some request) :
    ((serving tokenHash users now requests).run turns).calls[caller]? =
      some (request.call tokenHash) := by
  rw [System.calls_run_of_silent fun event member isCaller => coming ⟨event, member, isCaller⟩]
  exact (List.getElem?_map ..).trans (by rw [isRequest]; rfl)

theorem stable_outcome {allowed : Step accounts → Prop} {caller : ℕ} {returns : Response → Store → Prop}
    (lasting : ∀ response, Lasting (returns response)) (result : Except String Response) :
    (aging allowed).Stable caller (outcome (fun response moment => returns response moment.state)
      (fun _ _ => True) result) := by
  cases result with
  | ok response => exact (lasting response).stable
  | error _ => exact fun _ _ _ _ _ => trivial

theorem revoked_of_loggedOut {issuing meanwhile : List (Turn accounts)} {refreshToken : String}
    {leaver comer : ℕ}
    (facts : AfterLogout tokenHash requests ((serving tokenHash users now requests).run issuing)
      (((serving tokenHash users now requests).run issuing).run meanwhile) refreshToken leaver
      comer) :
    Revoked (tokenHash refreshToken)
      (((serving tokenHash users now requests).run issuing).run meanwhile).moment.state := by
  obtain ⟨refreshTokens, response, isLogout, member, answered⟩ := facts.leaves
  refine (holds_run holds_serving issuing).follow (stable_outcome fun _ =>
    lasting_revoked (tokenHash refreshToken)) (fun program found => ?_) meanwhile
      (fun _ _ => trivial) answered
  rw [call_of_coming facts.pending isLogout] at found
  cases found
  exact serves_logout member _ facts.held

theorem revoked_of_rotated {rotating : List (Turn accounts)} {refreshToken : String} {rotator : ℕ}
    (rotated : Rotated requests ((serving tokenHash users now requests).run rotating) rotator
      refreshToken) :
    Revoked (tokenHash refreshToken)
      ((serving tokenHash users now requests).run rotating).moment.state := by
  obtain ⟨candidates, response, matched, isRefresh, answered, isMatched, rfl, notGrace⟩ := rotated
  have lasting : ∀ response : Response, Lasting fun store => ∀ matched,
      response.matched = some matched → matched.fromGrace = false →
        Revoked (tokenHash matched.refreshToken) store :=
    fun _ _ _ ages known other isOther isFirst =>
      lasting_revoked _ _ _ ages (known other isOther isFirst)
  refine holds_serving.follow (stable_outcome lasting) (fun program found => ?_) rotating
    (fun _ _ => trivial) answered matched isMatched notGrace
  have isCall : (serving tokenHash users now requests).calls[rotator]? =
      some (refresh tokenHash candidates) := (List.getElem?_map ..).trans (by rw [isRefresh]; rfl)
  rw [isCall] at found
  cases found
  exact serves_refresh candidates _ trivial

theorem not_refreshedWith {reached : System accounts Response} {later : List (Turn accounts)}
    {refreshToken : String} {bound : Time} {comer : ℕ}
    (holds : anyStep.Holds (fun _ _ _ => True) reached)
    (coming : ∀ request, requests[comer]? = some request →
      reached.calls[comer]? = some (request.call tokenHash))
    (revoked : RevokedBy (tokenHash refreshToken) bound reached.moment.state)
    (forgotten : ∀ step ∈ reached.steps later, step.caller = comer →
      Forgotten (tokenHash refreshToken) step)
    (far : (∀ step ∈ reached.steps later, step.caller = comer →
        OutOfReach (tokenHash refreshToken) bound step) ∨
      bound + refreshGraceMs < reached.moment.state.now) :
    ¬ RefreshedWith requests (reached.run later) comer refreshToken := by
  rintro ⟨candidates, response, matched, isRefresh, answered, isMatched, isToken⟩
  have lasting : ∀ response : Response, Lasting fun _ => ∀ matched,
      response.matched = some matched → matched.refreshToken ≠ refreshToken := fun _ _ _ _ => id
  have taken := @Holds.narrow _ _ _ _ (· ∈ reached.steps later) (fun _ _ => trivial) _ holds
  refine taken.follow (stable_outcome lasting) (fun program found => ?_) later (fun _ => id)
    answered matched isMatched isToken
  rw [coming _ isRefresh] at found
  cases found
  exact serves_refresh_late ⟨forgotten, far⟩ candidates _ ⟨le_rfl, revoked⟩

/-- A token that was logged out does not serve a request that arrives later, and a token that was
rotated none that arrives when its grace is over: if it is not looked up within the grace after the
logout, and not in the map within the grace after it was put there. -/
theorem refreshToken_dies (tokenHash : String → String) (users : List User) (now : Time)
    (requests : List Request) :
    (∀ issuing meanwhile later refreshToken leaver comer,
      let issued := (serving tokenHash users now requests).run issuing
      let loggedOut := issued.run meanwhile
      AfterLogout tokenHash requests issued loggedOut refreshToken leaver comer →
      (∀ step ∈ loggedOut.steps later, step.caller = comer →
        Forgotten (tokenHash refreshToken) step ∧
          OutOfReach (tokenHash refreshToken) loggedOut.moment.state.now step) →
      ¬ RefreshedWith requests (loggedOut.run later) comer refreshToken) ∧
    (∀ rotating waiting later refreshToken rotator comer,
      let rotated := (serving tokenHash users now requests).run rotating
      let waited := rotated.run waiting
      AfterRotation requests rotated waited refreshToken rotator comer →
      (∀ step ∈ waited.steps later, step.caller = comer →
        Forgotten (tokenHash refreshToken) step) →
      ¬ RefreshedWith requests (waited.run later) comer refreshToken) := by
  constructor
  · intro issuing meanwhile later refreshToken leaver comer issued loggedOut facts spaced
    refine not_refreshedWith (holds_run (holds_run holds_serving issuing) meanwhile)
      (fun request isRequest => ?_) (revoked_of_loggedOut facts)
      (fun step member isComer => (spaced step member isComer).1)
      (Or.inl fun step member isComer => (spaced step member isComer).2)
    have coming := facts.coming
    simp only [loggedOut, issued, ← System.run_append] at coming ⊢
    exact call_of_coming coming isRequest
  · intro rotating waiting later refreshToken rotator comer rotated waited facts spaced
    have aged := ages_run rotated waiting
    refine not_refreshedWith (holds_run (holds_run holds_serving rotating) waiting)
      (fun request isRequest => ?_) ?_ spaced (Or.inr facts.waits)
    · have coming := facts.coming
      simp only [waited, rotated, ← System.run_append] at coming ⊢
      exact call_of_coming coming isRequest
    · exact aged.revoked _ _ (revoked_of_rotated facts.rotates)

end Sound

/-! ### Examples of runs -/

/-- Everything is answered: passwords are right, refresh tokens are of the first user, and the
next refresh token is given. -/
def answers (refreshToken : String) : (op : Op) → Outcome op
  | .now => ()
  | .findUserByEmail _ | .findUserByUsername _ | .findUserById _ | .updateUser _ _
  | .createSession _ | .findSession _ _ _ | .findRecentlyRevoked _ _ _ | .revokeSessions _ _ =>
    Delivery.answered
  | .comparePassword _ _ _ => .ok true
  | .compareCode _ _ _ => .ok true
  | .generateOtpCode => "000000"
  | .hashOtpCode _ => .ok "code hash"
  | .sendVerificationEmail _ _ => .ok ()
  | .verifyRefreshJwt _ => some 0
  | .signRefresh _ _ => refreshToken
  | .rememberRefreshGrace _ _ _ | .consumeRefreshGrace _ => ()

/-- Some turns of a request, the first after a while. -/
def turns (caller count elapsed : ℕ) (refreshToken : String) : List (Turn accounts) :=
  ⟨caller, fun op => ⟨elapsed, answers refreshToken op⟩⟩ ::
    List.replicate count ⟨caller, fun op => ⟨0, answers refreshToken op⟩⟩

def verifiedUser : User :=
  ⟨"user@example.org", none, "password hash", true, none, none, 0, none, 0, none⟩

/-- A sign-in, a logout with its token and a refresh with it. -/
def leaving : List Request :=
  [.login "user@example.org" "password", .logout ["first"], .refresh ["first"]]

def signedIn : System accounts Response :=
  (serving id [verifiedUser] 0 leaving).run (turns 0 6 0 "first")

def signedOut : System accounts Response := signedIn.run (turns 1 1 0 "")

/-- A sign-in, three refreshes with its token, and something else. -/
def staying : List Request :=
  [.login "user@example.org" "password", .refresh ["first"], .refresh ["first"],
    .refresh ["first"], .resendOtp "nobody@example.org"]

def refreshed : System accounts Response :=
  (serving id [verifiedUser] 0 staying).run (turns 0 6 0 "first" ++ turns 1 11 0 "second")

/-- The answer to a refresh with the first token. -/
def renewal (refreshToken : String) (fromGrace : Bool) : Response where
  body := .ok
  cookies := .session refreshToken
  matched := some ⟨"first", 0, "user@example.org", fromGrace⟩

/-- The token dies in both ways, and a late refresh with it is out of reach, or all but. -/
theorem leaving_runs :
    (Held "first" signedIn.moment.state ∧ ¬ Arrived signedIn 1 ∧
      Answered signedOut 1 { body := .ok, cookies := .cleared } ∧ ¬ Arrived signedOut 2) ∧
    (∀ step ∈ signedOut.steps (turns 2 20 50000 "second"), step.caller = 2 →
      Forgotten "first" step ∧ OutOfReach "first" signedOut.moment.state.now step) ∧
    Answered (signedOut.run (turns 2 20 0 "second")) 2 (renewal "second" true) := by
  decide +kernel

theorem staying_runs :
    Answered refreshed 1 (renewal "second" false) ∧
    (∀ waiting ∈ [turns 4 0 80000 "", turns 2 20 40000 "third" ++ turns 4 0 40000 ""],
      refreshed.moment.state.now + refreshGraceMs < (refreshed.run waiting).moment.state.now ∧
        ¬ Arrived (refreshed.run waiting) 3) ∧
    (∀ step ∈ (refreshed.run (turns 4 0 80000 "")).steps (turns 3 20 0 "third"), step.caller = 3 →
      Forgotten "first" step) ∧
    Answered ((refreshed.run (turns 2 20 40000 "third" ++ turns 4 0 40000 "")).run
      (turns 3 20 0 "fourth")) 3 (renewal "fourth" true) := by
  decide +kernel

theorem signedOut_afterLogout : AfterLogout id leaving signedIn signedOut "first" 1 2 := by
  obtain ⟨held, pending, leaves, coming⟩ := leaving_runs.1
  exact ⟨held, pending, ⟨["first"], _, rfl, List.mem_singleton.mpr rfl, leaves⟩, coming⟩

theorem refreshed_afterRotation {waiting : List (Turn accounts)}
    (isWaiting : waiting ∈ [turns 4 0 80000 "", turns 2 20 40000 "third" ++ turns 4 0 40000 ""]) :
    AfterRotation staying refreshed (refreshed.run waiting) "first" 1 3 where
  rotates := ⟨["first"], renewal "second" false, _, rfl, staying_runs.1, rfl, rfl, rfl⟩
  waits := (staying_runs.2.1 waiting isWaiting).1
  coming := (staying_runs.2.1 waiting isWaiting).2

/-- Fifty seconds after its logout, and eighty seconds after its rotation, the first token is dead. -/
theorem first_dies :
    ¬ RefreshedWith leaving (signedOut.run (turns 2 20 50000 "second")) 2 "first" ∧
      ¬ RefreshedWith staying ((refreshed.run (turns 4 0 80000 "")).run (turns 3 20 0 "third")) 3
        "first" :=
  ⟨(refreshToken_dies id [verifiedUser] 0 leaving).1 (turns 0 6 0 "first") (turns 1 1 0 "")
      (turns 2 20 50000 "second") "first" 1 2 signedOut_afterLogout leaving_runs.2.1,
    (refreshToken_dies id [verifiedUser] 0 staying).2
      (turns 0 6 0 "first" ++ turns 1 11 0 "second") (turns 4 0 80000 "") (turns 3 20 0 "third")
      "first" 1 3 (refreshed_afterRotation (List.mem_cons_self ..)) staying_runs.2.2.1⟩

/-- The first token serves right after its logout; and eighty seconds after its rotation, if it is
used in between. -/
theorem not_refreshToken_dies :
    (¬ ∀ (tokenHash : String → String) (users : List User) (now : Time) (requests : List Request)
      (issuing meanwhile later : List (Turn accounts)) (refreshToken : String) (leaver comer : ℕ),
      let issued := (serving tokenHash users now requests).run issuing
      let loggedOut := issued.run meanwhile
      AfterLogout tokenHash requests issued loggedOut refreshToken leaver comer →
        ¬ RefreshedWith requests (loggedOut.run later) comer refreshToken) ∧
    ¬ ∀ (tokenHash : String → String) (users : List User) (now : Time) (requests : List Request)
      (rotating waiting later : List (Turn accounts)) (refreshToken : String) (rotator comer : ℕ),
      let rotated := (serving tokenHash users now requests).run rotating
      let waited := rotated.run waiting
      AfterRotation requests rotated waited refreshToken rotator comer →
        ¬ RefreshedWith requests (waited.run later) comer refreshToken := by
  constructor
  · intro always
    refine always id [verifiedUser] 0 leaving (turns 0 6 0 "first") (turns 1 1 0 "")
      (turns 2 20 0 "second") "first" 1 2 signedOut_afterLogout ?_
    exact ⟨["first"], renewal "second" true, _, rfl, leaving_runs.2.2, rfl, rfl⟩
  · intro always
    refine always id [verifiedUser] 0 staying (turns 0 6 0 "first" ++ turns 1 11 0 "second")
      (turns 2 20 40000 "third" ++ turns 4 0 40000 "") (turns 3 20 0 "fourth") "first" 1 3
      (refreshed_afterRotation (List.mem_cons_of_mem _ (List.mem_singleton.mpr rfl))) ?_
    exact ⟨["first"], renewal "fourth" true, _, rfl, staying_runs.2.2.2, rfl, rfl⟩

end GdslExchange.Auth
