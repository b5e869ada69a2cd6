/-
This file models the routes that sign a user in and out: `/verify-email`,
`/resend-otp`, `/login`, `/refresh` and `/logout`.

A request carries what its route reads: an identifier or address that is
already trimmed and in lower case, and the refresh tokens of all its cookies in
the order in which they are tried. The hash of a refresh token is a parameter.
-/

import GdslExchange.Auth.Service

namespace GdslExchange.Auth

open Async (Stored)
open Async.Program

/-! ### Constants -/

def refreshTtlSeconds : Time := 60 * 60 * 24 * 7

def maxFailedLoginAttempts : ℕ := 5

def lockoutMinutes : Time := 15

def otpTtlMinutes : Time := 15

def otpMaxAttempts : ℕ := 5

def otpResendCooldownSeconds : Time := 60

def globalPaperEmail : String := "system.tradingbot@cryptoflow.internal"

/-! ### Responses -/

inductive Body where
  | ok
  | verified
  | sent (email : String)
  | error (message : String)
  | expired (message : String)
  | retryAfter (message : String) (seconds : ℤ)
  | requiresVerification (message email : String)
deriving DecidableEq

inductive Cookies where
  | kept
  | cleared
  | session (refreshToken : String)
deriving DecidableEq

/-- The session that a refresh token has been matched with. -/
structure Matched where
  refreshToken : String
  userId : ℕ
  email : String
  fromGrace : Bool
deriving DecidableEq

/-- A response, and what `/refresh` has matched. -/
structure Response where
  status : ℕ := 200
  body : Body
  cookies : Cookies := .kept
  matched : Option Matched := none
deriving DecidableEq

/-- `res.status(status).json(body)`. -/
def respond (status : ℕ) (body : Body) : Response := { status := status, body := body }

/-! ### Codes -/

def issueAndSendOtp (userId : ℕ) (email : String) : Call Unit := do
  let code ← await .generateOtpCode
  let codeHash ← await (.hashOtpCode code)
  let date ← await .now
  await (.updateUser userId (.issueCode codeHash (date + otpTtlMinutes * 60000) date))
  await (.sendVerificationEmail email code)

def verifyOtpCode (account : ℕ) (code codeHash : String) : Call Bool :=
  if code = "" ∨ codeHash = "" then pure false else await (.compareCode account code codeHash)

/-- The time since the last code was sent is within the cooldown. -/
def InCooldown (user : User) (date : Time) : Prop :=
  ∃ sentAt ∈ user.emailVerificationLastSentAt, date - sentAt < otpResendCooldownSeconds * 1000

instance (user : User) (date : Time) : Decidable (InCooldown user date) :=
  inferInstanceAs (Decidable (∃ sentAt ∈ user.emailVerificationLastSentAt, _))

/-! ### Sessions -/

section Sessions

variable (tokenHash : String → String)

def createRefreshSession (userId : ℕ) (refreshToken : String) : Call Unit := do
  let date ← await .now
  await (.createSession ⟨userId, tokenHash refreshToken, date + refreshTtlSeconds * 1000, none⟩)

def revokeRefreshSessionByToken (refreshToken : String) : Call Unit := do
  let date ← await .now
  await (.revokeSessions (tokenHash refreshToken) date)

/-- New cookies for a user who has signed in. -/
def openSession (user : Stored User) (body : Body) : Call Response := do
  let refreshToken ← await (.signRefresh user.id user.row.email)
  createRefreshSession tokenHash user.id refreshToken
  pure { body := body, cookies := .session refreshToken }

/-! ### Verification -/

/-- The code of a user that may still be tried. -/
def openCode (user : User) (date : Time) : Except Response String :=
  if user.emailVerified then
    .error (respond 409 (.error "Email is already verified. Please sign in."))
  else
    match user.emailVerificationCodeHash.filter fun hash => hash ≠ "",
      user.emailVerificationExpiresAt with
    | some codeHash, some expiresAt =>
      if expiresAt < date then
        .error (respond 400 (.expired "Verification code has expired. Request a new one."))
      else if user.emailVerificationAttempts ≥ otpMaxAttempts then
        .error (respond 429 (.expired
          "Too many incorrect attempts. Please request a new verification code."))
      else .ok codeHash
    | _, _ =>
      .error (respond 400 (.expired "Verification code has expired. Request a new one."))

def wrongCode (user : User) : Response :=
  let remaining := otpMaxAttempts - (user.emailVerificationAttempts + 1)
  respond 400 (.error (if remaining > 0 then
    "Invalid code. " ++ toString remaining ++ " attempt" ++ (if remaining = 1 then "" else "s") ++
      " remaining."
  else "Invalid code. Please request a new verification code."))

/-- A code that may be tried. -/
def tryCode (user : Stored User) (code codeHash : String) : Call Response := do
  let isMatch ← verifyOtpCode user.id code codeHash
  if isMatch = false then do
    await (.updateUser user.id .countAttempt)
    pure (wrongCode user.row)
  else do
    await (.updateUser user.id .verify)
    openSession tokenHash user .verified

def verifyEmail (email code : String) : Call Response := do
  match ← await (.findUserByEmail email) with
  | none => pure (respond 400 (.error "Invalid or expired verification code."))
  | some user => do
    let date ← await .now
    match openCode user.row date with
    | .error response => pure response
    | .ok codeHash => tryCode tokenHash user code codeHash

/-- The seconds until a code may be sent again. -/
def retryAfterSeconds (user : User) (date : Time) : ℤ :=
  let sinceLast := user.emailVerificationLastSentAt.elim 0 fun sentAt => date - sentAt
  (otpResendCooldownSeconds * 1000 - sinceLast + 999) / 1000

def resendOtp (email : String) : Call Response := do
  match ← await (.findUserByEmail email) with
  | none => pure (respond 200 (.sent email))
  | some user =>
    if user.row.emailVerified then pure (respond 200 (.sent email))
    else do
      let date ← await .now
      if InCooldown user.row date then
        let seconds := retryAfterSeconds user.row date
        pure (respond 429 (.retryAfter ("Please wait " ++ toString seconds ++
          "s before requesting another code.") seconds))
      else do
        issueAndSendOtp user.id email
        pure (respond 200 (.sent email))

/-! ### Login -/

def findAccount (identifier : String) : Call (Option (Stored User)) :=
  if '@' ∈ identifier.toList then await (.findUserByEmail identifier)
  else await (.findUserByUsername identifier)

def LockedOut (user : User) (date : Time) : Prop := ∃ lockout ∈ user.lockoutUntil, lockout > date

instance (user : User) (date : Time) : Decidable (LockedOut user date) :=
  inferInstanceAs (Decidable (∃ lockout ∈ user.lockoutUntil, _))

/-- A wrong password is counted, and the last that is allowed locks the account. -/
def countFailure (user : Stored User) : Call Unit := do
  let failed := user.row.failedLoginAttempts + 1
  let date ← await .now
  if failed ≥ maxFailedLoginAttempts then
    await (.updateUser user.id (.countFailure 0 (some (date + lockoutMinutes * 60000))))
  else await (.updateUser user.id (.countFailure failed none))

/-- A new code if the last was not sent a moment ago; its errors are ignored. -/
def remindOfVerification (user : Stored User) : Call Unit := do
  let date ← await .now
  if InCooldown user.row date then pure ()
  else recover (issueAndSendOtp user.id user.row.email) fun _ => pure ()

/-- A right password for an address that is not verified. -/
def askForVerification (user : Stored User) : Call Response := do
  await (.updateUser user.id .clearFailures)
  remindOfVerification user
  pure (respond 403 (.requiresVerification "Please verify your email to continue."
    user.row.email))

/-- An account that may be tried. -/
def tryPassword (user : Stored User) (password : String) : Call Response := do
  let valid ← await (.comparePassword user.id password user.row.passwordHash)
  if valid = false then do
    countFailure user
    pure (respond 401 (.error "Invalid credentials"))
  else if user.row.emailVerified = false then askForVerification user
  else do
    await (.updateUser user.id .clearFailures)
    openSession tokenHash user .ok

def login (identifier password : String) : Call Response :=
  if identifier = globalPaperEmail ∨ identifier = "system.paperbot@cryptoflow.internal" then
    pure (respond 401 (.error "Invalid credentialsss"))
  else do
    match ← findAccount identifier with
    | none => pure (respond 401 (.error "Invalid credentials"))
    | some user => do
      let date ← await .now
      if LockedOut user.row date then
        pure (respond 429 (.error "Too many failed attempts. Please try again later."))
      else tryPassword tokenHash user password

/-! ### Refresh and logout -/

/-- The bytes of `Buffer.from(text, 'hex')`: pairs of digits, up to the first that is none. -/
def hexBytes : List Char → List (Char × Char)
  | high :: low :: rest =>
    if high.isDigit ∨ high.toLower ∈ ['a', 'b', 'c', 'd', 'e', 'f'] then
      if low.isDigit ∨ low.toLower ∈ ['a', 'b', 'c', 'd', 'e', 'f'] then
        (high.toLower, low.toLower) :: hexBytes rest
      else []
    else []
  | _ => []

def safeEqualHexHash (aHex bHex : String) : Bool := hexBytes aHex.toList = hexBytes bHex.toList

/-- A token that was rotated or revoked a moment ago. -/
def matchGrace (refreshToken : String) (user : Stored User) : Call (Option Matched) := do
  let currentHash := tokenHash refreshToken
  let grace ← await (.consumeRefreshGrace currentHash)
  if grace.any fun entry => entry.userId = user.id then
    pure (some ⟨refreshToken, user.id, user.row.email, true⟩)
  else do
    let date ← await .now
    let recentlyRevoked ← await (.findRecentlyRevoked user.id currentHash (date - refreshGraceMs))
    pure (recentlyRevoked.map fun _ => ⟨refreshToken, user.id, user.row.email, true⟩)

def matchToken (refreshToken : String) : Call (Option Matched) := do
  match ← await (.verifyRefreshJwt refreshToken) with
  | none => pure none
  | some userId =>
    match ← await (.findUserById userId) with
    | none => pure none
    | some user => do
      let currentHash := tokenHash refreshToken
      let date ← await .now
      let session ← await (.findSession user.id currentHash date)
      if session.any fun row => safeEqualHexHash row.refreshTokenHash currentHash then
        pure (some ⟨refreshToken, user.id, user.row.email, false⟩)
      else matchGrace tokenHash refreshToken user

/-- The first refresh token that stands for a session. -/
def firstMatch : List String → Call (Option Matched)
  | [] => pure none
  | refreshToken :: rest => do
    match ← matchToken tokenHash refreshToken with
    | some found => pure (some found)
    | none => firstMatch rest

/-- A token that is redeemed for the first time is remembered and revoked, with the others that
came along. -/
def retire (candidates : List String) (found : Matched) : Call Unit :=
  if found.fromGrace then pure ()
  else do
    await (.rememberRefreshGrace (tokenHash found.refreshToken) found.userId found.email)
    revokeRefreshSessionByToken tokenHash found.refreshToken
    forEach (revokeRefreshSessionByToken tokenHash)
      (candidates.filter fun other => other ≠ found.refreshToken)

/-- The new session of a request that has been matched. -/
def redeem (candidates : List String) (found : Matched) : Call Response := do
  retire tokenHash candidates found
  let nextRefreshToken ← await (.signRefresh found.userId found.email)
  createRefreshSession tokenHash found.userId nextRefreshToken
  await (.rememberRefreshGrace (tokenHash found.refreshToken) found.userId found.email)
  pure { body := .ok, cookies := .session nextRefreshToken, matched := some found }

def refresh (candidates : List String) : Call Response :=
  if candidates = [] then
    pure { status := 401, body := .error "Refresh token missing", cookies := .cleared }
  else do
    match ← firstMatch tokenHash candidates with
    | none => pure { status := 401, body := .error "Invalid refresh session", cookies := .cleared }
    | some found => redeem tokenHash candidates found

def logout (refreshTokens : List String) : Call Response := do
  forEach (revokeRefreshSessionByToken tokenHash) refreshTokens
  pure { body := .ok, cookies := .cleared }

/-! ### Requests -/

inductive Request where
  | verifyEmail (email code : String)
  | resendOtp (email : String)
  | login (identifier password : String)
  | refresh (refreshTokens : List String)
  | logout (refreshTokens : List String)

def Request.call : Request → Call Response
  | .verifyEmail email code => Auth.verifyEmail tokenHash email code
  | .resendOtp email => Auth.resendOtp email
  | .login identifier password => Auth.login tokenHash identifier password
  | .refresh refreshTokens => Auth.refresh tokenHash refreshTokens
  | .logout refreshTokens => Auth.logout tokenHash refreshTokens

/-- A server that has just started, with all the requests it will get. No one is signed in. -/
def serving (users : List User) (now : Time) (requests : List Request) :
    Async.System accounts Response where
  moment := ⟨⟨users, [], [], now⟩, []⟩
  calls := requests.map (Request.call tokenHash)

end Sessions

/-! ### Routine operations -/

/-- An operation that neither revokes a session nor compares a secret nor counts a failed login. -/
def Routine : Op → Prop
  | .createSession session => session.revokedAt = none
  | .revokeSessions _ _ => False
  | .comparePassword _ _ _ => False
  | .compareCode _ _ _ => False
  | .updateUser _ (.countFailure _ _) => False
  | _ => True

section Routine

variable {tokenHash : String → String}

theorem routine_issueAndSendOtp (userId : ℕ) (email : String) :
    (issueAndSendOtp userId email).Only Routine := by
  refine only_then (by exact trivial) fun code => ?_
  refine only_then (by exact trivial) fun codeHash => ?_
  refine only_then (by exact trivial) fun date => ?_
  exact only_then (by exact trivial) fun _ => only_perform (by exact trivial)

theorem routine_createRefreshSession (userId : ℕ) (refreshToken : String) :
    (createRefreshSession tokenHash userId refreshToken).Only Routine :=
  only_then (by exact trivial) fun _ => only_perform (by exact rfl)

theorem routine_openSession (user : Stored User) (body : Body) :
    (openSession tokenHash user body).Only Routine := by
  refine only_then (by exact trivial) fun refreshToken => ?_
  exact only_bind (routine_createRefreshSession user.id refreshToken) fun _ => trivial

theorem routine_resendOtp (email : String) : (resendOtp email).Only Routine := by
  refine only_then (by exact trivial) fun user => ?_
  cases user with
  | none => trivial
  | some user =>
    show (if _ then _ else _ : Call Response).Only Routine
    split
    · trivial
    · refine only_then (by exact trivial) fun date => ?_
      split
      · trivial
      · exact only_bind (routine_issueAndSendOtp user.id email) fun _ => trivial

theorem routine_askForVerification (user : Stored User) :
    (askForVerification user).Only Routine := by
  refine only_then (by exact trivial) fun _ => only_bind ?_ fun _ => trivial
  refine only_then (by exact trivial) fun date => ?_
  split
  · trivial
  · exact only_recover (routine_issueAndSendOtp _ _) fun _ => trivial

theorem routine_matchGrace (refreshToken : String) (user : Stored User) :
    (matchGrace tokenHash refreshToken user).Only Routine := by
  refine only_then (by exact trivial) fun grace => ?_
  split
  · trivial
  · refine only_then (by exact trivial) fun date => ?_
    exact only_then (by exact trivial) fun _ => trivial

end Routine

end GdslExchange.Auth
