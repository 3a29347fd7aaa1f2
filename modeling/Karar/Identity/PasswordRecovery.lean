import Karar.Identity.Mfa

/-!
# Password recovery and e-mail verification

`ForgotPassword` issues a one-time reset token and answers the same for every address.
`ResetPassword` reads the request of a token, judges it, and consumes it after hashing the new
password; then it replaces the password and revokes every session. `ChangePassword` keeps the
session that proved the current password.

`RegisterAccount` answers alike for a fresh and for a taken address. `VerifyEmail` compares a
presented code with the latest active one of the account, counts a mismatch, and consumes the code
on a match; every failure is one generic error.
-/

namespace Karar.Identity

open SharedKernel

/-- `revokeAllSessions`: read the targets, then revoke them. -/
def revokeAllSessions (accountId : UserId) (reason : RevocationReason) (now : Instant)
    (exceptSessionId : Option String) : UseCase ℕ := do
  let ids ← sessions (.selectTargets accountId exceptSessionId)
  if ids.isEmpty then return 0
  else do
    sessions (.revokeTargets accountId ids reason now)
    return ids.length

structure EmailInput where
  email : String
  client : ClientContext
deriving DecidableEq

/-! ### Forgot -/

namespace ForgotPassword

variable (deps : IdentityDependencies)

/-- A new request within the cooldown of the latest one is not served. -/
def isCoolingDown (cooldownMs : ℕ) (now : Instant) : Option Instant → Bool
  | some latest => now - latest < cooldownMs
  | none => false

def issueReset (account : IdentityAccount) (now : Instant) (client : ClientContext) :
    UseCase Unit := do
  let token ← random .resetToken
  let expiresAt := now + deps.policy.resetTokenTtlMs
  let id ← random .id
  resets (.create
    { id
      accountId := account.id
      codeHash := deps.resetTokenDigest token
      expiresAt
      attempts := 0
      maxAttempts := deps.policy.resetMaxAttempts
      consumedAt := none
      createdAt := now }
    client.ipDigest)
  surroundings (.notify (.passwordReset account.email token expiresAt))
  recordSecurity (some account.id) .passwordResetRequested client.ipDigest none

/-- Always accepted. -/
def execute (input : EmailInput) : UseCase Unit := do
  let email := deps.normalizeEmail input.email
  assertWithinLimit .resetSend (deps.emailKey email)
  match ← accounts (.findByEmail email) with
  | none => return ()
  | some account =>
    if account.status ≠ .active then return ()
    else do
      let now ← clockNow
      let latest ← resets (.latestCreatedAt account.id)
      if isCoolingDown deps.policy.resetRequestCooldownMs now latest then return ()
      else issueReset deps account now input.client

end ForgotPassword

/-- The length bounds of a new password. -/
def isPasswordLength (policy : IdentityPolicy) (password : String) : Bool :=
  policy.passwordMinLength ≤ utf16Length password ∧ utf16Length password ≤ policy.passwordMaxLength

/-! ### Reset -/

structure ResetPasswordInput where
  token : String
  newPassword : String
  client : ClientContext
deriving DecidableEq

inductive ResetPasswordError
  | invalidToken
  | invalidPassword (minLength maxLength : ℕ)
deriving DecidableEq

/-- A consumed, expired or exhausted code. -/
def OneTimeCodeRecord.isDead (record : OneTimeCodeRecord) (now : Instant) : Bool :=
  record.consumedAt.isSome || decide (record.expiresAt ≤ now) ||
    decide (record.maxAttempts ≤ record.attempts)

namespace ResetPassword

variable (deps : IdentityDependencies)

/-- What follows a request judged live: hash, consume, replace, revoke everything. -/
def complete (request : OneTimeCodeRecord) (now : Instant) (input : ResetPasswordInput) :
    UseCase Unit := do
  let credential ← deps.hash input.newPassword
  resets (.consume request.id request.accountId now)
  accounts (.replacePassword request.accountId credential.passwordHash credential.paramsVersion now)
  let revokedCount ← revokeAllSessions request.accountId .passwordReset now none
  recordSecurity (some request.accountId) .passwordResetCompleted input.client.ipDigest
    (some [("revokedCount", .number revokedCount)])
  auditOrFail deps
    { action := "identity.password.reset"
      accountId := request.accountId
      resourceType := "identity_account"
      resourceId := request.accountId.value
      outcome := .success
      metadata := some [("revokedCount", .number revokedCount)] }
  noticeOwner request.accountId .passwordResetCompleted

def execute (input : ResetPasswordInput) : UseCase (Except ResetPasswordError Unit) := do
  if isPasswordLength deps.policy input.newPassword = false then
    return .error (.invalidPassword deps.policy.passwordMinLength deps.policy.passwordMaxLength)
  else do
    match ← resets (.findByCodeHash (deps.resetTokenDigest input.token)) with
    | none =>
      recordSecurity none .passwordResetFailed input.client.ipDigest
        (some [("reason", .text "unknown_token")])
      return .error .invalidToken
    | some request =>
      let now ← clockNow
      if request.isDead now then do
        resets (.recordFailedAttempt request.id)
        recordSecurity (some request.accountId) .passwordResetFailed input.client.ipDigest
          (some [("reason", .text "dead_token")])
        return .error .invalidToken
      else do
        complete deps request now input
        return .ok ()

end ResetPassword

/-! ### Change -/

structure ChangePasswordInput where
  accountId : UserId
  currentSessionId : String
  currentPassword : String
  newPassword : String
  client : ClientContext
deriving DecidableEq

inductive ChangePasswordError
  | invalidCurrentPassword
  | invalidPassword (minLength maxLength : ℕ)
deriving DecidableEq

namespace ChangePassword

variable (deps : IdentityDependencies)

/-- What follows a verified current password. -/
def complete (input : ChangePasswordInput) : UseCase Unit := do
  let now ← clockNow
  let next ← deps.hash input.newPassword
  accounts (.replacePassword input.accountId next.passwordHash next.paramsVersion now)
  let revokedCount ← revokeAllSessions input.accountId .passwordChanged now
    (some input.currentSessionId)
  recordSecurity (some input.accountId) .passwordChanged input.client.ipDigest
    (some [("revokedCount", .number revokedCount)])
  auditOrFail deps
    { action := "identity.password.changed"
      accountId := input.accountId
      resourceType := "identity_account"
      resourceId := input.accountId.value
      outcome := .success
      metadata := some [("revokedCount", .number revokedCount)] }
  noticeOwner input.accountId .passwordChanged

def execute (input : ChangePasswordInput) : UseCase (Except ChangePasswordError Unit) := do
  if isPasswordLength deps.policy input.newPassword = false then
    return .error (.invalidPassword deps.policy.passwordMinLength deps.policy.passwordMaxLength)
  else do
    match ← accounts (.getCredential input.accountId) with
    | none => return .error .invalidCurrentPassword
    | some credential =>
      if deps.argon2Verify credential.passwordHash input.currentPassword = false then do
        recordSecurity (some input.accountId) .loginFailed input.client.ipDigest
          (some [("reason", .text "change_password_wrong_current")])
        return .error .invalidCurrentPassword
      else do
        complete deps input
        return .ok ()

end ChangePassword

/-! ### E-mail addresses -/

/-- `\s` of a regular expression. -/
def isSpace (c : Char) : Bool := isTrimmed c

/-- The parts of a text between the occurrences of a character. -/
def splitAt (separator : Char) : List Char → List (List Char)
  | [] => [[]]
  | c :: rest =>
    if c = separator then [] :: splitAt separator rest
    else
      match splitAt separator rest with
      | [] => [[c]]
      | part :: parts => (c :: part) :: parts

/-- `EMAIL_SHAPE`: a local part without spaces, one `@`, and a dotted domain without spaces. -/
def isEmailShape (email : String) : Bool :=
  match splitAt '@' email.toList with
  | [localPart, domain] =>
    !localPart.isEmpty && !localPart.any isSpace && !domain.any isSpace &&
      2 ≤ (splitAt '.' domain).length && (splitAt '.' domain).all fun label ↦ !label.isEmpty
  | _ => false

def maxEmailLength : ℕ := 254

/-- Normalize, then validate; `none` for an `InvalidEmailError`. -/
def parseEmail (deps : IdentityDependencies) (raw : String) : Option String :=
  let normalized := deps.normalizeEmail raw
  if utf16Length normalized = 0 ∨ maxEmailLength < utf16Length normalized then none
  else if isEmailShape normalized then some normalized
  else none

/-! ### Register -/

structure RegisterAccountInput where
  email : String
  password : String
  client : ClientContext
deriving DecidableEq

inductive RegisterAccountError
  | invalidEmail
  | invalidPassword (minLength maxLength : ℕ)
deriving DecidableEq

namespace RegisterAccount

variable (deps : IdentityDependencies)

/-- Mint a verification code, store its digest, and send it. -/
def issueVerification (accountId : UserId) (email : String) (client : ClientContext) :
    UseCase Unit := do
  let now ← clockNow
  let code ← random .verificationCode
  let expiresAt := now + deps.policy.verificationCodeTtlMs
  let id ← random .id
  verifications (.create
    { id
      accountId
      codeHash := deps.verificationCodeDigest code
      expiresAt
      attempts := 0
      maxAttempts := deps.policy.verificationMaxAttempts
      consumedAt := none
      createdAt := now })
  surroundings (.notify (.verificationCode email code expiresAt))
  recordSecurity (some accountId) .verificationEmailSent client.ipDigest none

/-- A fresh account id; an id source that hands out anything but a UUID is a defect. -/
def drawAccountId : UseCase UserId := do
  let id ← random .id
  match UserId.parse id with
  | some accountId => return accountId
  | none => raise "UserId must be a UUID"

def register (email : String) (input : RegisterAccountInput) : UseCase Unit := do
  let credential ← deps.hash input.password
  let accountId ← drawAccountId
  let now ← clockNow
  let created ← accounts (.createWithCredential
    { id := accountId
      email
      passwordHash := credential.passwordHash
      paramsVersion := credential.paramsVersion
      now })
  if created = false then
    recordSecurity none .registrationDuplicate input.client.ipDigest none
  else do
    issueVerification deps accountId email input.client
    auditOrFail deps
      { action := "identity.account.registered"
        accountId := accountId
        resourceType := "identity_account"
        resourceId := accountId.value
        outcome := .success }

def execute (input : RegisterAccountInput) : UseCase (Except RegisterAccountError Unit) := do
  match parseEmail deps input.email with
  | none => return .error .invalidEmail
  | some email =>
    if isPasswordLength deps.policy input.password = false then
      return .error (.invalidPassword deps.policy.passwordMinLength deps.policy.passwordMaxLength)
    else do
      assertWithinLimit .verificationSend (deps.emailKey email)
      register deps email input
      return .ok ()

end RegisterAccount

/-! ### Verify -/

structure VerifyEmailInput where
  email : String
  code : String
  client : ClientContext
deriving DecidableEq

inductive VerifyEmailError
  | invalidCode
deriving DecidableEq

namespace VerifyEmail

variable (deps : IdentityDependencies)

/-- The digest a presented code is compared by. -/
def presentedDigest (code : String) : String :=
  deps.verificationCodeDigest (deps.toUpperCase (trim code))

def accept (account : IdentityAccount) (active : OneTimeCodeRecord) (now : Instant)
    (input : VerifyEmailInput) : UseCase Unit := do
  verifications (.consume active.id now)
  accounts (.markEmailVerified account.id now)
  recordSecurity (some account.id) .emailVerified input.client.ipDigest none
  auditOrFail deps
    { action := "identity.email.verified"
      accountId := account.id
      resourceType := "identity_account"
      resourceId := account.id.value
      outcome := .success }

/-- The comparison of a presented code with an active one that is below its cap. -/
def compare (account : IdentityAccount) (active : OneTimeCodeRecord) (now : Instant)
    (input : VerifyEmailInput) : UseCase (Except VerifyEmailError Unit) := do
  if IdentityDependencies.digestsEqual (presentedDigest deps input.code) active.codeHash = false then do
    verifications (.recordFailedAttempt active.id)
    recordSecurity (some account.id) .verificationFailed input.client.ipDigest
      (some [("reason", .text "mismatch")])
    return .error .invalidCode
  else do
    accept deps account active now input
    return .ok ()

def execute (input : VerifyEmailInput) : UseCase (Except VerifyEmailError Unit) := do
  match ← accounts (.findByEmail (deps.normalizeEmail input.email)) with
  | none => return .error .invalidCode
  | some account =>
    -- Idempotent re-verify: already proven, nothing to consume.
    if account.emailVerifiedAt.isSome then return .ok ()
    else do
      let now ← clockNow
      match ← verifications (.latestActive account.id now) with
      | none => return .error .invalidCode
      | some active =>
        if active.maxAttempts ≤ active.attempts then do
          recordSecurity (some account.id) .verificationFailed input.client.ipDigest
            (some [("reason", .text "attempt_cap")])
          return .error .invalidCode
        else compare deps account active now input

end VerifyEmail

/-! ### Resend -/

namespace ResendVerification

variable (deps : IdentityDependencies)

/-- Always accepted. -/
def execute (input : EmailInput) : UseCase Unit := do
  let email := deps.normalizeEmail input.email
  assertWithinLimit .verificationSend (deps.emailKey email)
  match ← accounts (.findByEmail email) with
  | none => return ()
  | some account =>
    if account.emailVerifiedAt.isSome || account.status != .active then return ()
    else do
      let latest ← verifications (.latestCreatedAt account.id)
      let now ← clockNow
      if ForgotPassword.isCoolingDown deps.policy.verificationResendCooldownMs now latest then
        return ()
      else RegisterAccount.issueVerification deps account.id account.email input.client

end ResendVerification

end Karar.Identity
